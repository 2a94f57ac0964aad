import DspInspector.Settings.Read
import DspInspector.Storage.FileTree
import DspInspector.Toml.Print

/-!
# Settings files
-/

namespace DspInspector.Settings

/-- A number in a settings file, which has to fit 64 bits with a sign. -/
def printedNumber (value : Nat) : Except Fault String :=
  if value ≤ 0x7FFFFFFFFFFFFFFF then .ok (toString value)
  else .error (.settings (.unwritableValue "out-of-range value for u64 type"))

/-- A flag in a settings file. -/
def printedFlag (value : Bool) : String := if value then "true" else "false"

/-- A section of a settings file. -/
def printedSection (name : String) (items : List (String × String)) : String :=
  "[" ++ name ++ "]\n" ++ String.join (items.map fun (name, value) => name ++ " = " ++ value ++ "\n")

/-- The text of a settings file. A directory that is not set is left out. -/
def text (settings : Settings) : Except Fault String := do
  let queueBytes ← printedNumber settings.probe.queueBytes
  let pollMilliseconds ← printedNumber settings.probe.pollMilliseconds
  pure <| "\n".intercalate [
    printedSection "transport" [
      ("set_get_ctrl_path", Toml.printedString settings.transport.controlPath),
      ("core_power_path", Toml.printedString settings.transport.powerPath),
      ("core_id", toString settings.transport.coreId.toNat)],
    printedSection "probe" [
      ("queue_size_bytes", queueBytes),
      ("poll_interval_ms", pollMilliseconds)],
    printedSection "topology" [
      ("refresh_on_start", printedFlag settings.topology.refreshOnStart)],
    printedSection "logging" <|
      [("filter", Toml.printedString settings.logging.filter)] ++
        (settings.logging.directory.map fun directory =>
          ("directory", Toml.printedString directory)).toList]

/-- Reads the settings file at a path. -/
def load (path : String) (tree : FileTree) : Except Fault Settings :=
  ofFile path ((tree.readBytes path).mapError FileError.message) FileError.notText.message

/-- Writes the settings file at a path, and the directories it is in. -/
def save (path : String) (settings : Settings) (tree : FileTree) : Except Fault FileTree := do
  let tree ← (tree.makeParents path).mapError fun cause => .settings (.createDirectory cause.message)
  let text ← settings.text
  (tree.writeBytes path (Text.utf8 text)).mapError fun cause =>
    .settings (.writeFile path cause.message)

end DspInspector.Settings

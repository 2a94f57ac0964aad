import DspInspector.Program
import DspInspector.Storage.FileTree
import Std.Time.DateTime.Timestamp

/-!
# The command line

The only argument is the path of a settings file; without it the settings are those in the user's
configuration directory, if there are any.
-/

namespace DspInspector

/-- Why a file could not be read, in the words of the system. -/
def refusal : IO.Error → String
  | .noFileOrDirectory .. => FileError.notFound.message
  | .inappropriateType _ 20 _ => FileError.notDirectory.message
  | .inappropriateType _ 21 _ => FileError.isDirectory.message
  | cause => toString cause

/-- The settings in a file. -/
def readSettings (path : String) : IO (Except Fault Settings) := do
  let content : Except String (List UInt8) ←
    try
      let bytes ← IO.FS.readBinFile path
      pure (.ok bytes.toList)
    catch cause => pure (.error (refusal cause))
  pure (Settings.ofFile path content FileError.notText.message)

/-- The user's configuration directory. -/
def configurationDirectory : IO (Option String) := do
  match ← IO.getEnv "XDG_CONFIG_HOME" with
  | some path => if path.startsWith "/" then pure (some path) else fallback
  | none => fallback
where
  fallback : IO (Option String) := do
    let home ← IO.getEnv "HOME"
    pure (home.map (· ++ "/.config"))

/-- The settings in the user's configuration directory, or the standard ones. -/
def readStandardSettings : IO Settings := do
  match ← configurationDirectory with
  | none => pure .standard
  | some directory =>
    let found ← readSettings (directory ++ "/" ++ Settings.standardPlace)
    pure (Settings.orStandard found)

/-- The time by the clock of the system. -/
def currentTime : IO Timestamp := do
  let now ← Std.Time.Timestamp.now
  pure ⟨now.toSecondsSinceUnixEpoch.val, (now.toNanosecondsSinceUnixEpoch.val % 1000000000).toNat⟩

end DspInspector

/-- Runs the program. -/
def main (arguments : List String) : IO UInt32 := do
  let settings ← match arguments with
    | [] => do
      let settings ← DspInspector.readStandardSettings
      pure (.ok settings)
    | path :: _ => DspInspector.readSettings path
  let now ← DspInspector.currentTime
  let outcome := DspInspector.runProgram settings now
  IO.print outcome.output
  IO.eprint outcome.errors
  pure outcome.code

import DspInspector.Settings.Settings
import DspInspector.Text.Utf8
import DspInspector.Toml.Read

/-!
# Reading settings

Settings are a table of sections. What is not set keeps its default, and names that nobody knows are
passed over. A section may also be written as an array of its values in order.
-/

namespace DspInspector.Settings

/-- A value of a section: its name, and how it is taken over. -/
structure Item (α : Type) where
  name : String
  take : Toml.Value → α → Option α

/-- Takes over the members of a section that are known. -/
def takeMembers {α : Type} (items : List (Item α)) : List (String × Toml.Value) → α → Option α
  | [], settings => some settings
  | (name, value) :: members, settings =>
    match items.find? (·.name == name) with
    | none => takeMembers items members settings
    | some item => do
      let settings ← item.take value settings
      takeMembers items members settings

/-- Takes over the values of a section in order. -/
def takeInOrder {α : Type} : List (Item α) → List Toml.Value → α → Option α
  | item :: items, value :: values, settings => do
    let settings ← item.take value settings
    takeInOrder items values settings
  | _, _, settings => some settings

/-- Takes over a section. A point in time is read as a table without known names. -/
def takeSection {α : Type} (items : List (Item α)) : Toml.Value → α → Option α
  | .table members, settings => takeMembers items members settings
  | .array values, settings => takeInOrder items values settings
  | .moment _, settings => some settings
  | _, _ => none

/-- A text. -/
def asText : Toml.Value → Option String
  | .string text => some text
  | _ => none

/-- A flag. -/
def asFlag : Toml.Value → Option Bool
  | .boolean value => some value
  | _ => none

/-- A number up to a limit. -/
def asNumber (limit : Nat) : Toml.Value → Option Nat
  | .integer value => if 0 ≤ value ∧ value ≤ limit then some value.toNat else none
  | _ => none

/-- The items of the transport section. -/
def transportItems : List (Item TransportSettings) :=
  [⟨"set_get_ctrl_path", fun value settings => do
      let controlPath ← asText value
      some { settings with controlPath }⟩,
    ⟨"core_power_path", fun value settings => do
      let powerPath ← asText value
      some { settings with powerPath }⟩,
    ⟨"core_id", fun value settings => do
      let coreId ← asNumber 0xFFFFFFFF value
      some { settings with coreId := UInt32.ofNat coreId }⟩]

/-- The items of the probe section. -/
def probeItems : List (Item ProbeSettings) :=
  [⟨"queue_size_bytes", fun value settings => do
      let queueBytes ← asNumber 0xFFFFFFFFFFFFFFFF value
      some { settings with queueBytes }⟩,
    ⟨"poll_interval_ms", fun value settings => do
      let pollMilliseconds ← asNumber 0xFFFFFFFFFFFFFFFF value
      some { settings with pollMilliseconds }⟩]

/-- The items of the topology section. -/
def topologyItems : List (Item TopologySettings) :=
  [⟨"refresh_on_start", fun value settings => do
      let refreshOnStart ← asFlag value
      some { settings with refreshOnStart }⟩]

/-- The items of the logging section. -/
def loggingItems : List (Item LoggingSettings) :=
  [⟨"filter", fun value settings => do
      let filter ← asText value
      some { settings with filter }⟩,
    ⟨"directory", fun value settings => do
      let directory ← asText value
      some { settings with directory := some directory }⟩]

/-- The sections. -/
def sections : List (Item Settings) :=
  [⟨"transport", fun value settings => do
      let transport ← takeSection transportItems value {}
      some { settings with transport }⟩,
    ⟨"probe", fun value settings => do
      let probe ← takeSection probeItems value {}
      some { settings with probe }⟩,
    ⟨"topology", fun value settings => do
      let topology ← takeSection topologyItems value {}
      some { settings with topology }⟩,
    ⟨"logging", fun value settings => do
      let logging ← takeSection loggingItems value {}
      some { settings with logging }⟩]

/-- The settings that a text describes. -/
def ofText (text : String) : Option Settings := do
  let value ← Toml.read text
  takeSection sections value standard

/-- The reason given for a file that cannot be understood. -/
def misunderstood : String := "TOML parse error"

/-- The settings in a file, given what came of reading it. -/
def ofFile (path : String) (content : Except String (List UInt8)) (notText : String) :
    Except Fault Settings :=
  match content with
  | .error reason => .error (.settings (.readFile path reason))
  | .ok bytes =>
    match Text.ofUtf8? bytes with
    | none => .error (.settings (.readFile path notText))
    | some text =>
      match ofText text with
      | none => .error (.settings (.parseFile path misunderstood))
      | some settings => .ok settings

/-- The settings in a file, or the standard ones when there is no such file or it cannot be used. -/
def orStandard (found : Except Fault Settings) : Settings :=
  match found with
  | .ok settings => settings
  | .error _ => standard

end DspInspector.Settings

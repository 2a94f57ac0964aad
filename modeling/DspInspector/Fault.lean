import DspInspector.Module.Id
import DspInspector.Tlv.Error
import DspInspector.Probe.Error
import DspInspector.Text.Quoted

/-!
# Faults

Everything that can go wrong while the firmware is inspected, by cause. A fault may be put into a
context, any number of times; its root cause is what is left without the contexts.
-/

namespace DspInspector

/-- What goes wrong on the way to the firmware and back. -/
inductive TransportError where
  /-- Reported by the channel itself. -/
  | reported (text : String)
  | controlRead (path reason : String)
  | controlWrite (path reason : String)
  | corePower (reason : String)
  | openFile (path reason : String)
  | sendRequest (path reason : String)
  | receiveReply (path reason : String)
  | unsupportedParameter (parameter : UInt32) (target : InstanceId)
  | unknownPipeline (id : UInt32)
  | unknownCore (id : UInt32)
  | noInstance (id : InstanceId)
  deriving DecidableEq

/-- The failure as it is shown to a person. -/
def TransportError.message : TransportError → String
  | .reported text => text
  | .controlRead path reason =>
    "Get module parameter failed to read command debugfs in file: " ++ path ++
      ", Device returns an exception: " ++ reason
  | .controlWrite path reason =>
    "Get module parameter failed to write command debugfs in file: " ++ path ++
      ", Device returns an exception: " ++ reason
  | .corePower reason => "Could not set core power: " ++ reason
  | .openFile path reason => "error while opening debugfs " ++ path ++ " file: " ++ reason
  | .sendRequest path reason =>
    "Failed to write command in file: " ++ path ++ ", DebugFs handler returns an exception: " ++ reason
  | .receiveReply path reason =>
    "Failed to read command answer from file: " ++ path ++
      ", DebugFs handler returns an exception: " ++ reason
  | .unsupportedParameter parameter target =>
    s!"Unsupported parameter {parameter.toNat} of module {target.moduleId.toNat} " ++
      s!"instance {target.instanceId.toNat}"
  | .unknownPipeline id => s!"Unknown pipeline id {id.toNat}"
  | .unknownCore id => s!"Unknown core id {id.toNat}"
  | .noInstance id => "No module instance " ++ id.text

/-- The lists of objects whose length the firmware bounds. -/
inductive Listing where
  | pipelines
  | gateways
  | measurements
  deriving DecidableEq

/-- The name of a list in a message. -/
def Listing.text : Listing → String
  | .pipelines => "pipeline"
  | .gateways => "gateway"
  | .measurements => "performance entries"

/-- Answers of the firmware that contradict what it said before. -/
inductive FirmwareError where
  /-- The labels of the configuration values that are missing. -/
  | incomplete (missing : List String)
  | moduleCount (received expected : Nat)
  | tooMany (listing : Listing) (received limit : Nat)
  | bitDepth (id : InstanceId)
  | budgetOverflow
  | noModule (moduleId : UInt16)
  /-- A reason worded elsewhere. -/
  | worded (text : String)
  deriving DecidableEq

/-- The contradiction as it is shown to a person. -/
def FirmwareError.message : FirmwareError → String
  | .incomplete missing =>
    "Incomplete firmware configuration, missing: " ++ ", ".intercalate missing
  | .moduleCount received expected =>
    s!"Firmware has returned an invalid module count: {received} instead of {expected}"
  | .tooMany listing received limit =>
    s!"Firmware has returned an invalid {listing.text} count: {received} max is: {limit}"
  | .bitDepth id =>
    s!"The bit depth for module instance ({id.moduleId.toNat}, {id.instanceId.toNat}) " ++
      "is not a multiple of 8."
  | .budgetOverflow => "Budget kCPS computation overflow."
  | .noModule moduleId =>
    s!"When trying to find module entry {moduleId.toNat}: no such module"
  | .worded text => text

/-- Objects that make no graph. -/
inductive TopologyError where
  | undefinedInstance (id : InstanceId)
  /-- A reason worded elsewhere. -/
  | worded (text : String)
  deriving DecidableEq

/-- The inconsistency as it is shown to a person. -/
def TopologyError.message : TopologyError → String
  | .undefinedInstance id => "undefined module instance " ++ id.text
  | .worded text => text

/-- What is wrong with the settings of the program or the file they are kept in. -/
inductive SettingsError where
  | readFile (path reason : String)
  | parseFile (path reason : String)
  | createDirectory (reason : String)
  | unwritableValue (reason : String)
  | writeFile (path reason : String)
  | queueSize
  | pollInterval
  | controlPath
  /-- A reason worded elsewhere. -/
  | worded (text : String)
  deriving DecidableEq

/-- The problem as it is shown to a person. -/
def SettingsError.message : SettingsError → String
  | .readFile path reason => "Failed to read config file " ++ Text.quoted path ++ ": " ++ reason
  | .parseFile path reason => "Failed to parse config file " ++ Text.quoted path ++ ": " ++ reason
  | .createDirectory reason => "Failed to create config directory: " ++ reason
  | .unwritableValue reason => "Failed to serialize config: " ++ reason
  | .writeFile path reason => "Failed to write config file " ++ Text.quoted path ++ ": " ++ reason
  | .queueSize => "probe.queue_size_bytes must be greater than 0"
  | .pollInterval => "probe.poll_interval_ms must be greater than 0"
  | .controlPath => "transport.set_get_ctrl_path must not be empty"
  | .worded text => text

/-- What can go wrong. -/
inductive Fault where
  | wire (cause : WireError)
  | record (cause : Tlv.RecordError)
  | transport (cause : TransportError)
  | firmware (cause : FirmwareError)
  | topology (cause : TopologyError)
  | probe (cause : ProbeError)
  | settings (cause : SettingsError)
  | argument (cause : ArgumentError)
  | system (reason : String)
  | encoding (reason : String)
  /-- A word cannot hold a sum. The program stops there, and nobody is left to put this into a context. -/
  | overflow
  | inContext (context : String) (cause : Fault)
  deriving DecidableEq

namespace Fault

/-- The fault as it is shown to a person, outermost context first. -/
def message : Fault → String
  | .wire cause => "Stream error: " ++ cause.message
  | .record cause => cause.message
  | .transport cause => cause.message
  | .firmware cause => cause.message
  | .topology cause => "Topology inconsistency: " ++ cause.message
  | .probe cause => cause.message
  | .settings cause => "Configuration error: " ++ cause.message
  | .argument cause => "Invalid argument: " ++ cause.message
  | .system reason => "IO error: " ++ reason
  | .encoding reason => "Serialization error: " ++ reason
  | .overflow => "attempt to add with overflow"
  | .inContext context cause => context ++ ": " ++ cause.message

/-- What the fault goes back to, step by step, each as it is shown to a person. -/
def causes : Fault → List String
  | .wire cause => [cause.message]
  | .record (.badValue _ cause) => [cause.message]
  | .system reason => [reason]
  | .inContext _ cause => cause.message :: cause.causes
  | _ => []

/-- The fault without its contexts. -/
def root : Fault → Fault
  | .inContext _ cause => cause.root
  | cause => cause

end Fault

end DspInspector

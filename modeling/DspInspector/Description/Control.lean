import DspInspector.Control.DebugFs
import DspInspector.Control.Image
import DspInspector.Control.Scripted
import DspInspector.Description.Graph

/-!
# Descriptions of the other side

Firmware images, and scripts for transports and devices, out of documents.
-/

namespace DspInspector

/-- The header of a message. -/
def MessageHeader.ofDocument : Reader MessageHeader := fun document =>
  return ⟨← document.wordAt "primary", ← document.wordAt "extended"⟩

/-- The header of a tunneled parameter. -/
def TunnelHeader.ofDocument : Reader TunnelHeader := fun document =>
  return ⟨← document.wordAt "param_id", ← document.wordAt "param_size"⟩

variable (bytes : Reader (List UInt8))

/-- A reply: its bytes, or the reason why there are none. -/
def ScriptedReply.ofDocument : Reader ScriptedReply := fun document => do
  if document.has "error" then return .error (← document.textAt "error")
  else return .ok (← bytes (document.member "ok"))

/-- A rule, about reading unless it says otherwise. -/
def ScriptRule.ofDocument : Reader ScriptRule := fun document => do
  let part (name : String) := (document.member name).asOptional Document.asNat
  pure {
    onQuery := (← document.textAt "on") != "set"
    moduleId := (← part "m").map .ofNat
    instanceId := (← part "i").map .ofNat
    parameter := (← part "p").map .ofNat
    replies := ← document.listAt (ScriptedReply.ofDocument bytes) "replies" }

/-- The script of a device. -/
def DeviceScript.ofDocument : Reader DeviceScript := fun document =>
  return ⟨← document.listAt (ScriptedReply.ofDocument bytes) "reads",
    ← document.listAt (Document.asOptional Document.asText) "writes"⟩

/-- The entries of a driver; those of a stock driver when no path is given. -/
def ControlEntries.ofDocument : Reader ControlEntries := fun document => do
  if document.has "path" then
    return ⟨← document.textAt "path", ⟨← document.textAt "power_path", ← document.wordAt "core_id"⟩⟩
  else return .standard

/-- An image: what it says in place of what the blank image, or the demonstration image, has. -/
def Image.ofDocument : Reader Image := fun document => do
  let base := if ← document.boolAt "demo" then Image.demo else .blank
  let part {α : Type} (name : String) (old : α) (reader : Reader α) := document.memberOr name old reader
  let list {α : Type} (name : String) (old : List α) (item : Reader α) :=
    document.memberOr name old (Document.asList item)
  pure {
    version := ← part "fw_version" base.version FirmwareVersion.ofDocument
    maxPipelines := ← part "max_ppl_count" base.maxPipelines Document.asWord
    maxInstances := ← part "max_mod_inst_count" base.maxInstances Document.asWord
    cores := ← part "dsp_core_count" base.cores Document.asWord
    modules := ← list "modules" base.modules (ModuleEntry.ofDocument bytes)
    pipelines := ← list "pipelines" base.pipelines Pipeline.ofDocument
    schedules := ← list "schedulers" base.schedules CoreSchedule.ofDocument
    gateways := ← list "gateways" base.gateways Gateway.ofDocument
    instances := ← part "instances" base.instances fun instances => do
      return .ofList ((← instances.asList InstanceProps.ofDocument).map fun props => (props.id, props))
    measurements := ← list "perf_items" base.measurements Measurement.ofDocument
    lowPowerMemory := ← part "lpsram" base.lowPowerMemory fun bank =>
      return some (← BankState.ofDocument bank)
    highPowerMemory := ← part "hpsram" base.highPowerMemory fun bank =>
      return some (← BankState.ofDocument bank) }

end DspInspector

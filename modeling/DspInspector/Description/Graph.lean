import DspInspector.Description.Firmware
import DspInspector.Graph.Topology
import DspInspector.Load.Measurement

/-!
# Descriptions of the graph

Instances, pipelines, schedules and gateways out of documents. What a pin or a format leaves out is
as at a plain audio pin.
-/

namespace DspInspector

/-- The id of an instance: its two numbers. Anything but a pair stands for the first instance of the
first module. -/
def InstanceId.ofDocument : Reader InstanceId := fun document => do
  match ← document.asList Document.asNat with
  | [moduleId, instanceId] => pure ⟨.ofNat moduleId, .ofNat instanceId⟩
  | _ => pure ⟨0, 0⟩

/-- The id of a gateway. -/
def ConnectorId.ofDocument : Reader ConnectorId := fun document => return ⟨← document.asWord⟩

/-- The format at a pin. -/
def AudioFormat.ofDocument : Reader AudioFormat := fun document => do
  let standard := AudioFormat.standard
  let word (name : String) (missing : UInt32) := document.memberOr name missing Document.asWord
  let byte (name : String) (missing : UInt8) : Described UInt8 :=
    document.memberOr name missing fun value => return .ofNat (← value.asNat)
  pure {
    samplingFrequency := ← word "sampling_frequency" standard.samplingFrequency
    bitDepth := ← word "bit_depth" standard.bitDepth
    channelMap := ← word "channel_map" standard.channelMap
    channelConfig := ← document.memberOr "channel_config" standard.channelConfig Coded.ofDocument
    interleaving := ← document.memberOr "interleaving_style" standard.interleaving Coded.ofDocument
    channels := ← byte "number_of_channels" standard.channels
    validBitDepth := ← byte "valid_bit_depth" standard.validBitDepth
    sampleType := ← document.memberOr "sample_type" standard.sampleType Coded.ofDocument
    reserved := ← byte "reserved" standard.reserved }

/-- A pin: the queue of a plain audio pin, or all of its props. -/
def Pin.ofDocument : Reader Pin
  | .object members => do
    let document := Document.object members
    pure ⟨.ofRaw (← document.wordAt "stream_type"), ← AudioFormat.ofDocument (document.member "format"),
      ← document.memberOr "phys_queue_id" Pin.noQueue Document.asWord⟩
  | document => return .pcm .standard (← document.asWord)

/-- The props of an instance. -/
def InstanceProps.ofDocument : Reader InstanceProps := fun document => do
  let bare := InstanceProps.bare (← InstanceId.ofDocument (document.member "id"))
  pure { bare with
    dpQueueType := ← document.wordAt "dp_queue_type"
    queueAlignment := ← document.wordAt "queue_alignment"
    cpUsageMask := ← document.wordAt "cp_usage_mask"
    stackBytes := ← document.wordAt "stack_bytes"
    bssTotalBytes := ← document.wordAt "bss_total_bytes"
    bssUsedBytes := ← document.wordAt "bss_used_bytes"
    inputBufferBytes := ← document.wordAt "ibs_bytes"
    outputBufferBytes := ← document.wordAt "obs_bytes"
    cpc := ← document.wordAt "cpc"
    cpcPeak := ← document.wordAt "cpc_peak"
    inputPins := ← document.listAt Pin.ofDocument "input_pins"
    outputPins := ← document.listAt Pin.ofDocument "output_pins"
    inputGateway := ← document.memberOr "input_gateway" bare.inputGateway ConnectorId.ofDocument
    outputGateway := ← document.memberOr "output_gateway" bare.outputGateway ConnectorId.ofDocument }

/-- A pipeline. -/
def Pipeline.ofDocument : Reader Pipeline := fun document =>
  return {
    id := ← document.wordAt "id"
    priority := ← document.wordAt "priority"
    state := ← document.wordAt "state"
    totalMemoryBytes := ← document.wordAt "total_memory_bytes"
    usedMemoryBytes := ← document.wordAt "used_memory_bytes"
    contextPages := ← document.wordAt "context_pages"
    instances := ← document.listAt InstanceId.ofDocument "module_instances"
    llTasks := ← document.listAt Document.asWord "ll_tasks"
    dpTasks := ← document.listAt Document.asWord "dp_tasks" }

/-- A task. -/
def ScheduledTask.ofDocument : Reader ScheduledTask := fun document =>
  return ⟨← document.wordAt "task_id", ← document.listAt InstanceId.ofDocument "module_instances"⟩

/-- A scheduler. -/
def Scheduler.ofDocument : Reader Scheduler := fun document =>
  return ⟨← document.wordAt "processing_domain", ← document.wordAt "core_id",
    ← document.listAt ScheduledTask.ofDocument "tasks"⟩

/-- The schedulers of a core. -/
def CoreSchedule.ofDocument : Reader CoreSchedule := fun document =>
  return ⟨← document.listAt Scheduler.ofDocument "schedulers"⟩

/-- A gateway. -/
def Gateway.ofDocument : Reader Gateway := fun document =>
  return ⟨⟨← document.wordAt "id"⟩, ← document.wordAt "attribs"⟩

/-- A measurement, with its details packed or as two flags. -/
def Measurement.ofDocument : Reader Measurement := fun document => do
  let id ← InstanceId.ofDocument (document.member "id")
  let flags := Measurement.of id (← document.boolAt "power_mode") (← document.boolAt "is_removed")
    (← document.wordAt "peak") (← document.wordAt "average")
  pure { flags with details := ← document.memberOr "details" flags.details Document.asWord }

/-- A topology whose links are not computed yet. -/
def Topology.ofDocument : Reader Topology := fun document =>
  return .of ⟨0, 0⟩ (← document.listAt InstanceProps.ofDocument "instances")
    (← document.listAt Gateway.ofDocument "gateways") (← document.listAt Pipeline.ofDocument "pipelines")
    (← document.listAt CoreSchedule.ofDocument "schedulers")

end DspInspector

import DspInspector.Capability.Limits
import DspInspector.Capability.Memory
import DspInspector.Control.Transport
import DspInspector.Graph.Pipeline
import DspInspector.Graph.Schedule
import DspInspector.Load.Measurement
import DspInspector.Module.Entry
import DspInspector.Module.Instance
import DspInspector.Tlv.Unpack

/-!
# Connections

A connection is established by reading the firmware and hardware configuration; everything that is
asked later is sized and checked by the limits found there. A transport failure says which parameter
of which instance was asked for. Configuration records that cannot be filed are passed over. Bytes
after a decoded answer are passed over too, but a list of the wrong length is a fault.
-/

namespace DspInspector

/-- What is known of the firmware at the other end of a transport. -/
structure Connection where
  firmware : FirmwareConfig
  hardware : HardwareConfig
  limits : Limits
  deriving DecidableEq

namespace Connection

variable {σ : Type}

/-- The instance that answers for the whole firmware. -/
def base : InstanceId := ⟨baseFirmwareModule, baseFirmwareInstance⟩

/-- Reads a parameter; a failure tells which one. -/
def ask (transport : Transport σ) (target : InstanceId) (parameter : ParameterId) (capacity : Nat) :
    Action Fault σ (List UInt8) :=
  Action.mapError
    (Fault.inContext (s!"Unable to query parameter {parameter.text} of module {target.moduleId.toNat} " ++
      s!"instance {target.instanceId.toNat}"))
    (transport.query target parameter capacity)

/-- The value at the start of a reply. -/
def decodeReply (α : Type) [Wire α] (reply : List UInt8) : Except Fault α :=
  match Wire.decode α reply with
  | .ok value => .ok value
  | .error cause => .error (.inContext "Can not decode fw parameter" (.wire cause))

/-- Reads a parameter and decodes its value. -/
def askValue (α : Type) [Wire α] (transport : Transport σ) (target : InstanceId)
    (parameter : ParameterId) (capacity : Nat) : Action Fault σ α := do
  let reply ← ask transport target parameter capacity
  Action.ofExcept (decodeReply α reply)

/-- Reads a parameter of the base firmware that is a list of tagged records. -/
def askTagged {ρ : Type} (transport : Transport σ) (dictionary : Tlv.Dictionary ρ) (fields : ρ)
    (parameter : BaseParameter) (capacity : Nat) : Action Fault σ ρ := do
  let reply ← ask transport base (.ofBase parameter) capacity
  pure (Tlv.Unpacking.all dictionary (.start dictionary fields reply)).2.fields

/-- Reads both configurations and checks that nothing needed is missing. -/
def establish (transport : Transport σ) : Action Fault σ Connection := do
  let firmware ← Action.mapError (Fault.inContext "Unable to read firmware configuration") <|
    askTagged transport FirmwareConfig.dictionary .empty .firmwareConfig configReplySize
  let hardware ← Action.mapError (Fault.inContext "Unable to read hardware configuration") <|
    askTagged transport HardwareConfig.dictionary .empty .hardwareConfig configReplySize
  match Limits.of firmware hardware with
  | .ok limits => pure { firmware, hardware, limits }
  | .error cause => throw (.firmware cause)

/-- The module table, which has to have `count` entries. -/
def moduleEntriesOf (transport : Transport σ) (count : UInt32) : Action Fault σ (List ModuleEntry) := do
  let entries ← askValue (List ModuleEntry) transport base (.ofBase .moduleTable)
    (ModuleEntry.listSize count.toNat)
  if entries.length = count.toNat then pure entries
  else throw (.firmware (.moduleCount entries.length count.toNat))

/-- The module table. -/
def moduleEntries (connection : Connection) (transport : Transport σ) :
    Action Fault σ (List ModuleEntry) :=
  moduleEntriesOf transport connection.limits.modules

/-- Refuses a list that is longer than the firmware said. -/
def checkLength {α : Type} (listing : Listing) (limit : UInt32) (items : List α) :
    Except Fault (List α) :=
  if items.length ≤ limit.toNat then .ok items
  else .error (.firmware (.tooMany listing items.length limit.toNat))

/-- The ids of the pipelines, at most `limit` of them. -/
def pipelineIdsUpTo (transport : Transport σ) (limit : UInt32) : Action Fault σ (List UInt32) := do
  let ids ← askValue (List UInt32) transport base (.ofBase .pipelineList)
    (Pipeline.idListSize limit.toNat)
  Action.ofExcept (checkLength .pipelines limit ids)

/-- The ids of the pipelines. -/
def pipelineIds (connection : Connection) (transport : Transport σ) : Action Fault σ (List UInt32) :=
  pipelineIdsUpTo transport connection.limits.pipelines

/-- The gateways, at most `limit` of them. -/
def gatewaysUpTo (transport : Transport σ) (limit : UInt32) : Action Fault σ (List Gateway) := do
  let gateways ← askValue (List Gateway) transport base (.ofBase .gateways)
    (Gateway.listSize limit.toNat)
  Action.ofExcept (checkLength .gateways limit gateways)

/-- The gateways. -/
def gateways (connection : Connection) (transport : Transport σ) : Action Fault σ (List Gateway) :=
  gatewaysUpTo transport connection.limits.gateways

/-- The cycle measurements, at most `limit` of them. -/
def measurementsUpTo (transport : Transport σ) (limit : UInt32) : Action Fault σ (List Measurement) := do
  let items ← askValue (List Measurement) transport base (.ofBase .measurements)
    (Measurement.listSize limit.toNat)
  Action.ofExcept (checkLength .measurements limit items)

/-- The cycle measurements. -/
def measurements (connection : Connection) (transport : Transport σ) :
    Action Fault σ (List Measurement) := do
  let limit ← Action.ofExcept connection.limits.measurements
  measurementsUpTo transport limit

theorem measurements_of_lt {connection : Connection} (transport : Transport σ)
    (fits : connection.limits.instances.toNat + connection.limits.cores.toNat < UInt32.size) :
    connection.measurements transport =
      measurementsUpTo transport (.ofNat (connection.limits.instances.toNat + connection.limits.cores.toNat)) := by
  rw [measurements, Limits.measurements_of_lt fits]
  rfl

theorem measurements_of_le {connection : Connection} (transport : Transport σ)
    (exceeds : UInt32.size ≤ connection.limits.instances.toNat + connection.limits.cores.toNat) :
    connection.measurements transport = throw .overflow := by
  rw [measurements, Limits.measurements_of_le exceeds]
  rfl

/-- A parameter of the base firmware about one of its objects. -/
def askObject (α : Type) [Wire α] (transport : Transport σ) (parameter : BaseParameter)
    (object : UInt32) : Action Fault σ α :=
  match ParameterId.extended (Enumeration.coding parameter).code object with
  | .error cause => throw (.argument cause)
  | .ok parameter => askValue α transport base parameter payloadLimit

/-- The props of a pipeline. -/
def pipelineProps (transport : Transport σ) (id : UInt32) : Action Fault σ Pipeline :=
  askObject Pipeline transport .pipelineProps id

/-- The schedulers of a core. -/
def coreSchedule (transport : Transport σ) (core : UInt32) : Action Fault σ CoreSchedule :=
  askObject CoreSchedule transport .schedulers core

/-- The props of a module instance. -/
def instanceProps (transport : Transport σ) (id : InstanceId) : Action Fault σ InstanceProps :=
  askValue InstanceProps transport id (.ofInstance .props) payloadLimit

/-- The use of the on-chip memory. -/
def memoryState (transport : Transport σ) : Action Fault σ MemoryState :=
  askTagged transport MemoryState.dictionary .empty .memoryState payloadLimit

/-- What the measurement service is doing. -/
def measurementState (transport : Transport σ) : Action Fault σ (Coded MeasurementState) :=
  askValue (Coded MeasurementState) transport base (.ofBase .measurementState) 4

/-- Writes a parameter; a failure tells which one. -/
def setParameter (transport : Transport σ) (target : InstanceId) (parameter : ParameterId)
    (payload : List UInt8) : Action Fault σ Unit :=
  if payload.length ≤ payloadLimit then
    Action.mapError
      (Fault.inContext (s!"Unable to set parameter {parameter.text} of module {target.moduleId.toNat} " ++
        s!"instance {target.instanceId.toNat}"))
      (transport.configure target parameter payload)
  else throw (.argument (.payload payload.length payloadLimit))

/-- Reads the bytes of a parameter, at most the payload limit. -/
def getParameter (transport : Transport σ) (target : InstanceId) (parameter : ParameterId)
    (size : Nat) : Action Fault σ (List UInt8) :=
  ask transport target parameter (min size payloadLimit)

/-- Tells the measurement service what to do. -/
def setMeasurementState (transport : Transport σ) (state : Coded MeasurementState) :
    Action Fault σ Unit :=
  setParameter transport base (.ofBase .measurementState) (Wire.write state)

end Connection

end DspInspector

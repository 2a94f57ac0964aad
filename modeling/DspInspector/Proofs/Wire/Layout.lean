import DspInspector.Capability.Firmware
import DspInspector.Capability.Hardware
import DspInspector.Capability.Memory
import DspInspector.Control.Message
import DspInspector.Graph.Pipeline
import DspInspector.Graph.Schedule
import DspInspector.Load.Measurement
import DspInspector.Module.Entry
import DspInspector.Module.Instance
import DspInspector.Module.Parameter
import DspInspector.Probe.Packet
import DspInspector.Proofs.Wire.Echo

/-!
# Everything that travels

`Layout` names the types that travel between host and firmware: the integers, the enumerations, fixed
arrays and counted lists of anything, and the records. Each name stands for a type of values
(`Layout.Value`) with its format (`Layout.wire`). `Layout.Canonical` says which values the writer does not
change: an enumeration does not hide one of its members behind an unknown code, a hash has its length,
and a list is no longer than its count can say.
-/

namespace DspInspector

/-! ## Canonical records -/

/-- The sample encoding has one byte for its code. -/
structure AudioFormat.Canonical (format : AudioFormat) : Prop where
  channelConfig : format.channelConfig.Canonical
  interleaving : format.interleaving.Canonical
  sampleType : format.sampleType.Canonical
  sampleByte : format.sampleType.raw < 256

structure Pin.Canonical (pin : Pin) : Prop where
  streamType : pin.streamType.Canonical
  format : pin.format.Canonical

structure InstanceProps.Canonical (props : InstanceProps) : Prop where
  inputCount : Wire.Fits props.inputPins
  inputPins : ∀ pin ∈ props.inputPins, pin.Canonical
  outputCount : Wire.Fits props.outputPins
  outputPins : ∀ pin ∈ props.outputPins, pin.Canonical

structure Pipeline.Canonical (pipeline : Pipeline) : Prop where
  instances : Wire.Fits pipeline.instances
  llTasks : Wire.Fits pipeline.llTasks
  dpTasks : Wire.Fits pipeline.dpTasks

def ScheduledTask.Canonical (task : ScheduledTask) : Prop := Wire.Fits task.instances

structure Scheduler.Canonical (scheduler : Scheduler) : Prop where
  taskCount : Wire.Fits scheduler.tasks
  tasks : ∀ task ∈ scheduler.tasks, task.Canonical

structure CoreSchedule.Canonical (core : CoreSchedule) : Prop where
  schedulerCount : Wire.Fits core.schedulers
  schedulers : ∀ scheduler ∈ core.schedulers, scheduler.Canonical

structure BankState.Canonical (bank : BankState) : Prop where
  blockStates : Wire.Fits bank.blockStates
  pageAllocation : Wire.Fits bank.pageAllocation

def I2sCapabilities.Canonical (caps : I2sCapabilities) : Prop := Wire.Fits caps.controllerAddresses

structure GpdmaCapabilities.Canonical (caps : GpdmaCapabilities) : Prop where
  lowPowerGateways : Wire.Fits caps.lowPowerGateways
  highPowerGateways : Wire.Fits caps.highPowerGateways

def Digest.Canonical (digest : Digest) : Prop := digest.bytes.length = Digest.size

def ModuleEntry.Canonical (entry : ModuleEntry) : Prop := entry.hash.Canonical

def Packet.Canonical (packet : Packet) : Prop := Wire.Fits packet.data

/-! ## Enumerations -/

/-- The enumerations of the interface. -/
inductive EnumerationName where
  | channelConfig
  | interleaving
  | sampleType
  | firmwareTag
  | hardwareTag
  | connectorClass
  | baseParameter
  | instanceParameter
  | memoryTag
  | streamType
  | measurementState
  | probeType

namespace EnumerationName

@[reducible] def Member : EnumerationName → Type
  | channelConfig => ChannelConfig
  | interleaving => Interleaving
  | sampleType => SampleType
  | firmwareTag => FirmwareTag
  | hardwareTag => HardwareTag
  | connectorClass => ConnectorClass
  | baseParameter => BaseParameter
  | instanceParameter => InstanceParameter
  | memoryTag => MemoryTag
  | streamType => StreamType
  | measurementState => MeasurementState
  | probeType => ProbeType

instance table : (name : EnumerationName) → Enumeration name.Member
  | channelConfig => inferInstanceAs (Enumeration ChannelConfig)
  | interleaving => inferInstanceAs (Enumeration Interleaving)
  | sampleType => inferInstanceAs (Enumeration SampleType)
  | firmwareTag => inferInstanceAs (Enumeration FirmwareTag)
  | hardwareTag => inferInstanceAs (Enumeration HardwareTag)
  | connectorClass => inferInstanceAs (Enumeration ConnectorClass)
  | baseParameter => inferInstanceAs (Enumeration BaseParameter)
  | instanceParameter => inferInstanceAs (Enumeration InstanceParameter)
  | memoryTag => inferInstanceAs (Enumeration MemoryTag)
  | streamType => inferInstanceAs (Enumeration StreamType)
  | measurementState => inferInstanceAs (Enumeration MeasurementState)
  | probeType => inferInstanceAs (Enumeration ProbeType)

end EnumerationName

instance : Lawful ChannelConfig := ⟨by intro member; cases member <;> rfl⟩
instance : Lawful Interleaving := ⟨by intro member; cases member <;> rfl⟩
instance : Lawful SampleType := ⟨by intro member; cases member <;> rfl⟩
instance : Lawful FirmwareTag := ⟨by intro member; cases member <;> rfl⟩
instance : Lawful HardwareTag := ⟨by intro member; cases member <;> rfl⟩
instance : Lawful ConnectorClass := ⟨by intro member; cases member <;> rfl⟩
instance : Lawful BaseParameter := ⟨by intro member; cases member <;> rfl⟩
instance : Lawful InstanceParameter := ⟨by intro member; cases member <;> rfl⟩
instance : Lawful MemoryTag := ⟨by intro member; cases member <;> rfl⟩
instance : Lawful StreamType := ⟨by intro member; cases member <;> rfl⟩
instance : Lawful MeasurementState := ⟨by intro member; cases member <;> rfl⟩
instance : Lawful ProbeType := ⟨by intro member; cases member <;> rfl⟩

instance (name : EnumerationName) : Lawful name.Member := by
  cases name <;> infer_instance

/-! ## Layouts -/

/-- The types that travel. The lists of pipeline ids, gateways, module entries and measurements that the
firmware sends are counted lists of their items. -/
inductive Layout where
  | u8
  | u16
  | u32
  | u64
  | i8
  | i16
  | i32
  | i64
  | enumeration (name : EnumerationName)
  | array (length : Nat) (item : Layout)
  | list (item : Layout)
  | firmwareVersion
  | dmaBuffer
  | i2sCapabilities
  | gpdmaCapabilities
  | instanceId
  | connectorId
  | audioFormat
  | pin
  | instanceProps
  | pipeline
  | scheduledTask
  | scheduler
  | coreSchedule
  | gateway
  | bankState
  | segment
  | moduleEntry
  | measurement
  | probePoint
  | packet
  | messageHeader
  | tunnelHeader

namespace Layout

@[reducible] def Value : Layout → Type
  | u8 => UInt8
  | u16 => UInt16
  | u32 => UInt32
  | u64 => UInt64
  | i8 => Int8
  | i16 => Int16
  | i32 => Int32
  | i64 => Int64
  | enumeration name => Coded name.Member
  | array length item => Vector item.Value length
  | list item => List item.Value
  | firmwareVersion => FirmwareVersion
  | dmaBuffer => DmaBuffer
  | i2sCapabilities => I2sCapabilities
  | gpdmaCapabilities => GpdmaCapabilities
  | instanceId => InstanceId
  | connectorId => ConnectorId
  | audioFormat => AudioFormat
  | pin => Pin
  | instanceProps => InstanceProps
  | pipeline => Pipeline
  | scheduledTask => ScheduledTask
  | scheduler => Scheduler
  | coreSchedule => CoreSchedule
  | gateway => Gateway
  | bankState => BankState
  | segment => Segment
  | moduleEntry => ModuleEntry
  | measurement => Measurement
  | probePoint => ProbePoint
  | packet => Packet
  | messageHeader => MessageHeader
  | tunnelHeader => TunnelHeader

instance wire : (layout : Layout) → Wire layout.Value
  | u8 => inferInstanceAs (Wire UInt8)
  | u16 => inferInstanceAs (Wire UInt16)
  | u32 => inferInstanceAs (Wire UInt32)
  | u64 => inferInstanceAs (Wire UInt64)
  | i8 => inferInstanceAs (Wire Int8)
  | i16 => inferInstanceAs (Wire Int16)
  | i32 => inferInstanceAs (Wire Int32)
  | i64 => inferInstanceAs (Wire Int64)
  | enumeration name => inferInstanceAs (Wire (Coded name.Member))
  | array length item =>
    let _ := item.wire
    inferInstanceAs (Wire (Vector item.Value length))
  | list item =>
    let _ := item.wire
    inferInstanceAs (Wire (List item.Value))
  | firmwareVersion => inferInstanceAs (Wire FirmwareVersion)
  | dmaBuffer => inferInstanceAs (Wire DmaBuffer)
  | i2sCapabilities => inferInstanceAs (Wire I2sCapabilities)
  | gpdmaCapabilities => inferInstanceAs (Wire GpdmaCapabilities)
  | instanceId => inferInstanceAs (Wire InstanceId)
  | connectorId => inferInstanceAs (Wire ConnectorId)
  | audioFormat => inferInstanceAs (Wire AudioFormat)
  | pin => inferInstanceAs (Wire Pin)
  | instanceProps => inferInstanceAs (Wire InstanceProps)
  | pipeline => inferInstanceAs (Wire Pipeline)
  | scheduledTask => inferInstanceAs (Wire ScheduledTask)
  | scheduler => inferInstanceAs (Wire Scheduler)
  | coreSchedule => inferInstanceAs (Wire CoreSchedule)
  | gateway => inferInstanceAs (Wire Gateway)
  | bankState => inferInstanceAs (Wire BankState)
  | segment => inferInstanceAs (Wire Segment)
  | moduleEntry => inferInstanceAs (Wire ModuleEntry)
  | measurement => inferInstanceAs (Wire Measurement)
  | probePoint => inferInstanceAs (Wire ProbePoint)
  | packet => inferInstanceAs (Wire Packet)
  | messageHeader => inferInstanceAs (Wire MessageHeader)
  | tunnelHeader => inferInstanceAs (Wire TunnelHeader)

/-- The values that the writer does not change. -/
def Canonical : (layout : Layout) → layout.Value → Prop
  | enumeration _, value => Coded.Canonical value
  | array _ item, values => ∀ value ∈ values, item.Canonical value
  | list item, values => Wire.Fits values ∧ ∀ value ∈ values, item.Canonical value
  | i2sCapabilities, value => I2sCapabilities.Canonical value
  | gpdmaCapabilities, value => GpdmaCapabilities.Canonical value
  | audioFormat, value => AudioFormat.Canonical value
  | pin, value => Pin.Canonical value
  | instanceProps, value => InstanceProps.Canonical value
  | pipeline, value => Pipeline.Canonical value
  | scheduledTask, value => ScheduledTask.Canonical value
  | scheduler, value => Scheduler.Canonical value
  | coreSchedule, value => CoreSchedule.Canonical value
  | bankState, value => BankState.Canonical value
  | moduleEntry, value => ModuleEntry.Canonical value
  | packet, value => Packet.Canonical value
  | _, _ => True

end Layout

end DspInspector

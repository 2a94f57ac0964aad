import DspInspector.Description.Control
import DspInspector.Description.Probe
import DspInspector.Description.WireType
import DspInspector.Report.Control
import DspInspector.Tlv.Slot

/-!
# The catalogue of wire types

Every type that travels between host and firmware, by the name under which the firmware's interface
knows it.
-/

namespace DspInspector

/-- The enumerations of the interface. -/
def EnumerationTable.catalogue : List (String × EnumerationTable) := [
  ("ChannelConfig", .of ChannelConfig),
  ("InterleavingStyle", .of Interleaving),
  ("SampleType", .of SampleType),
  ("FwConfigTag", .of FirmwareTag),
  ("HwConfigTag", .of HardwareTag),
  ("GatewayType", .of ConnectorClass),
  ("BaseFwParam", .of BaseParameter),
  ("BaseModuleParam", .of InstanceParameter),
  ("MemoryStateTag", .of MemoryTag),
  ("StreamType", .of StreamType),
  ("PerfState", .of MeasurementState),
  ("ProbeType", .of ProbeType)]

namespace WireType

/-- Integers of every width, and arrays. -/
def simple : List (String × WireType) := [
  ("u8", number UInt8.ofInt (·.toNat)),
  ("u16", number UInt16.ofInt (·.toNat)),
  ("u32", number UInt32.ofInt (·.toNat)),
  ("u64", wideNumber UInt64.ofInt (·.toNat)),
  ("i8", number Int8.ofInt Int8.toInt),
  ("i16", number Int16.ofInt Int16.toInt),
  ("i32", number Int32.ofInt Int32.toInt),
  ("i64", wideNumber Int64.ofInt Int64.toInt),
  ("u8x3", array 3 (0 : UInt8) (fun document => return .ofNat (← document.asNat)) (.natural ·.toNat)),
  ("u16x0", array 0 (0 : UInt16) (fun document => return .ofNat (← document.asNat)) (.natural ·.toNat)),
  ("u32x4", array 4 (0 : UInt32) Document.asWord .word),
  ("SegmentDescx2", array 2 default Segment.ofDocument Segment.document)]

/-- The records of the interface. -/
def records (bytes : Reader (List UInt8)) : List (String × WireType) := [
  ("FwVersion", withFacts FirmwareVersion.ofDocument FirmwareVersion.document FirmwareVersion.facts),
  ("DmaBufferConfig", plain DmaBuffer.ofDocument DmaBuffer.document),
  ("I2sCaps", plain I2sCapabilities.ofDocument I2sCapabilities.document),
  ("GpdmaCaps", plain GpdmaCapabilities.ofDocument GpdmaCapabilities.document),
  ("CompoundModuleId", withFacts InstanceId.ofDocument InstanceId.document InstanceId.facts),
  ("ConnectorNodeId", withFacts ConnectorId.ofDocument ConnectorId.document ConnectorId.facts),
  ("AudioDataFormatIpc", withFacts AudioFormat.ofDocument AudioFormat.document AudioFormat.facts),
  ("PinProps", withFacts Pin.ofDocument Pin.document Pin.facts),
  ("ModuleInstanceProps", plain InstanceProps.ofDocument InstanceProps.document),
  ("PipelineProps", plain Pipeline.ofDocument Pipeline.document),
  ("TaskProps", plain ScheduledTask.ofDocument ScheduledTask.document),
  ("SchedulerProps", plain Scheduler.ofDocument Scheduler.document),
  ("SchedulersInfo", withFacts CoreSchedule.ofDocument CoreSchedule.document CoreSchedule.facts),
  ("PipelinesListInfo", listUnder "ppl_ids" Document.asWord .word),
  ("GatewaysInfo", listUnder "gateways" Gateway.ofDocument Gateway.document),
  ("ModulesInfo", listUnder "modules" (ModuleEntry.ofDocument bytes) ModuleEntry.document),
  ("GlobalPerfData", listUnder "items" Measurement.ofDocument Measurement.document),
  ("GatewayProps", withFacts Gateway.ofDocument Gateway.document Gateway.facts),
  ("SramStateInfo", plain BankState.ofDocument BankState.document),
  ("SegmentDesc", withFacts Segment.ofDocument Segment.document Segment.facts),
  ("ModuleEntry", withFacts (ModuleEntry.ofDocument bytes) ModuleEntry.document ModuleEntry.facts),
  ("PerfDataItem", withFacts Measurement.ofDocument Measurement.document Measurement.facts),
  ("ProbePointId", withFacts ProbePoint.ofDocument (.word ·.raw) ProbePoint.facts),
  ("Packet", withFacts (Packet.ofDocument bytes) Packet.document Packet.facts),
  ("MessageHeader", withFacts MessageHeader.ofDocument MessageHeader.document MessageHeader.facts),
  ("TunneledHeader", plain TunnelHeader.ofDocument TunnelHeader.document)]

/-- The type of a name. -/
def named (bytes : Reader (List UInt8)) (name : String) : Described WireType :=
  match simple.lookup name, (records bytes).lookup name, EnumerationTable.catalogue.lookup name with
  | some type, _, _ => .ok type
  | _, some type, _ => .ok type
  | _, _, some table => .ok table.wireType
  | _, _, _ => .error ⟨"the name of a type"⟩

/-- The type that a description names. -/
def ofMember (bytes : Reader (List UInt8)) : Reader WireType := fun document => do
  named bytes (← document.textAt "type")

end WireType

/-- The values of the fields of a response, by the place of the field. -/
abbrev FieldValues := List (List WireValue)

/-- How the values of a tag are kept in a response whose fields are told at run time. -/
inductive FieldShape where
  | single (type : WireType)
  | many (type : WireType)
  | ignored

namespace FieldShape

/-- The shape that a description tells. -/
def ofDocument (bytes : Reader (List UInt8)) : Reader FieldShape := fun document => do
  match ← document.textAt "kind" with
  | "scalar" => return .single (← WireType.ofMember bytes document)
  | "sequence" => return .many (← WireType.ofMember bytes document)
  | _ => return .ignored

/-- The slot of the field at a place. -/
def slot (place : Nat) : FieldShape → Tlv.Slot FieldValues
  | .single type =>
    .scalar type.wire ⟨fun fields => (fields.getD place []).head?, fun value fields => fields.set place value.toList⟩
  | .many type =>
    .sequence type.wire ⟨fun fields => fields.getD place [], fun values fields => fields.set place values⟩
  | .ignored => .ignored

/-- The document of the field at a place: a list, or a value that may be missing. -/
def document (place : Nat) (fields : FieldValues) : FieldShape → Document
  | .many _ => .listOf WireValue.document (fields.getD place [])
  | _ => .optional WireValue.document (fields.getD place []).head?

end FieldShape

end DspInspector

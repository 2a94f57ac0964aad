import DspInspector.Control.Message
import DspInspector.Probe.Packet
import DspInspector.Report.Capability
import DspInspector.Report.Graph
import DspInspector.Report.Load

/-!
# Facts about values

What a value means beyond its fields: packed fields taken apart, and texts for a person.
-/

namespace DspInspector

/-- The version as a text. -/
def FirmwareVersion.facts (version : FirmwareVersion) : List (String × Document) :=
  [("text", .text version.text)]

/-- The id as one word, and as a text. -/
def InstanceId.facts (id : InstanceId) : List (String × Document) :=
  [("int", .word id.toWord), ("text", .text id.text)]

/-- The parts of a gateway id. -/
def ConnectorId.facts (id : ConnectorId) : List (String × Document) :=
  [("valid", .boolean id.isValid), ("v_index", .natural id.index.toNat),
    ("gateway_type", id.connector.document), ("text", .text id.text)]

/-- The parts of a parameter id. -/
def ParameterId.facts (id : ParameterId) : List (String × Document) :=
  [("raw", .word id.raw), ("type_tag", .word id.typeTag), ("sub_id", .word id.subId),
    ("text", .text id.text), ("debug", .text ("ParameterId(" ++ Text.hexWord id.raw.toNat ++ ")"))]

/-- The size of a sample, where it is known. -/
def AudioFormat.facts (format : AudioFormat) : List (String × Document) :=
  [("sample_bytes", .optional .natural format.sampleBytes), ("text", .text format.text)]

/-- Whether the pin is connected. -/
def Pin.facts (pin : Pin) : List (String × Document) := [("connected", .boolean pin.isConnected)]

/-- The instances that a core runs. -/
def CoreSchedule.facts (core : CoreSchedule) : List (String × Document) :=
  [("module_instances", .listOf (fun id => .text id.text) core.instances)]

/-- The attributes of a gateway. -/
def Gateway.facts (gateway : Gateway) : List (String × Document) :=
  [("lp_buffer_alloc", .boolean gateway.inLowPowerMemory)]

/-- The flags of a segment. -/
def Segment.facts (segment : Segment) : List (String × Document) :=
  [("code", .boolean segment.flags.isCode), ("data", .boolean segment.flags.isData),
    ("type", .word segment.flags.kind), ("length", .word segment.flags.pages)]

/-- The name, the UUID and the type of a module. -/
def ModuleEntry.facts (entry : ModuleEntry) : List (String × Document) :=
  [("name", .text entry.name), ("uuid", .text entry.uuidText),
    ("load_type", .word entry.moduleType.loadType), ("auto_start", .boolean entry.moduleType.autoStart),
    ("domain_ll", .boolean entry.moduleType.lowLatency),
    ("domain_dp", .boolean entry.moduleType.dataProcessing)]

/-- The flags of a measurement. -/
def Measurement.facts (item : Measurement) : List (String × Document) :=
  [("power_mode", .boolean item.lowPower), ("is_removed", .boolean item.isRemoved)]

/-- The fields of a probe point. -/
def ProbePoint.facts (point : ProbePoint) : List (String × Document) :=
  [("module_id", .word point.moduleId), ("instance_id", .word point.instanceId),
    ("type", point.type.document), ("index", .word point.index), ("text", .text point.text)]

/-- The checksum and the compact form of a packet. -/
def Packet.facts (packet : Packet) : List (String × Document) :=
  [("checksum", .text (toString packet.checksum.toNat)), ("compact", .bytes packet.writeCompact),
    ("text", .text packet.text)]

/-- The fields of a message header. -/
def MessageHeader.facts (header : MessageHeader) : List (String × Document) :=
  [("data_size", .word header.dataSize), ("large_param_id", .word header.parameter)]

/-- The names and the code of a value of an enumeration. -/
def Coded.facts {κ : Type} [Enumeration κ] (value : Coded κ) : List (String × Document) :=
  [("name", .text value.label), ("text", .text value.text), ("known", .boolean value.isKnown),
    ("raw", .word value.raw)]

end DspInspector

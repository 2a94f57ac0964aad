import DspInspector.Probe.Event
import DspInspector.Probe.Packet
import DspInspector.Probe.Scripted
import DspInspector.Probe.Session
import DspInspector.Report.Basic

/-!
# Probing as documents
-/

namespace DspInspector

/-- A packet. -/
def Packet.document (packet : Packet) : Document :=
  .object [
    ("probe_point_id", .word packet.point.raw),
    ("format", .word packet.format),
    ("dsp_wall_clock_ts_hw", .word packet.clockHigh),
    ("dsp_wall_clock_ts_lw", .word packet.clockLow),
    ("data", .bytes packet.data)]

/-- The name of a purpose. -/
def Purpose.name : Purpose → String
  | .extract => "Extract"
  | .inject => "Inject"
  | .injectReextract => "InjectReextract"

/-- A probe. -/
def Probe.document (probe : Probe) : Document :=
  .object [
    ("enabled", .boolean probe.enabled),
    ("probe_point", .word probe.point.raw),
    ("purpose", .text probe.purpose.name)]

/-- The active slots of a session. -/
def ActiveSlots.members (active : ActiveSlots) : List (String × Document) :=
  [("extraction", .listOf .natural active.extraction), ("injection", .listOf .natural active.injection)]

/-- An event: a list that begins with its name. -/
def WorkerEvent.document : WorkerEvent → Document
  | .extractionFinished => .list [.text "ExtractionFinished"]
  | .extractionAborted reason => .list [.text "ExtractionAborted", .text reason]
  | .injectionAborted channel reason =>
    .list [.text "InjectionAborted", .natural channel, .text reason]
  | .packetDropped channel => .list [.text "PacketDropped", .natural channel]

/-- The state of a queue. -/
def BoundedQueue.document {α : Type} (queue : BoundedQueue α) : Document :=
  .object [
    ("len", .natural queue.items.length),
    ("empty", .boolean queue.items.isEmpty),
    ("memory", .natural queue.load),
    ("max", .natural queue.budget),
    ("open", .boolean queue.isOpen)]

/-- The name of a flow in a note. -/
def Flow.name : Flow → String
  | .extraction => "Extraction"
  | .injection => "Injection"

/-- Something done to a probe driver. -/
def ProbeDeviceNote.document : ProbeDeviceNote → Document
  | .move source target accepted =>
    .list [.text "state", .text source.text, .text target.text, .boolean accepted]
  | .program flow channel probe =>
    .list [.text "channel", .text flow.name, .natural channel, probe.document]
  | .openExtraction => .list [.text "open_extraction"]
  | .openInjection channel => .list [.text "open_injection", .natural channel]
  | .inject channel bytes => .list [.text "inject", .natural channel, .bytes bytes]

end DspInspector

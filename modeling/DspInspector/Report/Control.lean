import DspInspector.Control.Message
import DspInspector.Control.Scripted
import DspInspector.Control.Transport
import DspInspector.Report.Basic

/-!
# Accesses as documents

A note of an access is a list that begins with what was done.
-/

namespace DspInspector

/-- The header of a message. -/
def MessageHeader.document (header : MessageHeader) : Document :=
  .object [("primary", .word header.primary), ("extended", .word header.extended)]

/-- The header of a tunneled parameter. -/
def TunnelHeader.document (header : TunnelHeader) : Document :=
  .object [("param_id", .word header.parameter), ("param_size", .word header.size)]

/-- The counts of accesses, with the bits of the success rate. -/
def AccessStats.document (stats : AccessStats) : Document :=
  .object [
    ("queries", .natural stats.queries),
    ("configures", .natural stats.configures),
    ("failures", .natural stats.failures),
    ("bytes_received", .natural stats.bytesReceived),
    ("rate_bits", .text (String.ofList (Text.hexPadded false 16 stats.successRate.toBits.toNat)))]

/-- An access to a parameter; a failed read has a reply of -1 bytes. -/
def Access.document : Access → Document
  | .query target parameter capacity reply =>
    .list [.text "query", .natural target.moduleId.toNat, .natural target.instanceId.toNat,
      .word parameter.raw, .natural capacity,
      match reply with
      | some length => .natural length
      | none => .number (-1)]
  | .configure target parameter payload succeeded =>
    .list [.text "set", .natural target.moduleId.toNat, .natural target.instanceId.toNat,
      .word parameter.raw, .bytes payload, .boolean succeeded]

/-- An access to a control entry. -/
def DeviceAccess.document : DeviceAccess → Document
  | .read path request capacity =>
    .list [.text "read", .text path, .bytes request, .natural capacity]
  | .write path request => .list [.text "write", .text path, .bytes request]

end DspInspector

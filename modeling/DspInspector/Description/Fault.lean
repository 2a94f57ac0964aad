import DspInspector.Fault
import DspInspector.Json.Read

/-!
# Descriptions of faults
-/

namespace DspInspector

/-- A fault by its kind, with the words, the tag or the size that it is about, and inside the contexts
that it passed. What a stream failed with is invalid data in those words, or the end of the stream. -/
def Fault.ofDocument : Reader Fault := fun document => do
  let message ← document.textAt "message"
  let tag ← document.wordAt "tag"
  let cause : WireError := if ← document.boolAt "invalid" then .invalid (.worded message) else .endOfStream
  let root : Fault ← match ← document.textAt "kind" with
    | "Stream" => pure (.wire cause)
    | "TlvRead" => pure (.record (.unreadable cause))
    | "TlvUnknownTag" => pure (.record (.unknownTag tag))
    | "TlvInvalidSize" => return .record (.badSize tag (← document.natAt "size"))
    | "TlvValueRead" => pure (.record (.badValue tag (.unreadable cause)))
    | "TlvValueElement" => pure (.record (.badValue tag (.element cause)))
    | "TlvValueNotFullyConsumed" => pure (.record (.badValue tag .leftover))
    | "ProbeDriver" => pure (.probe (.driver message))
    | "ProbeWorkerAborted" => pure (.probe (.workerAborted .injection message))
    | "Io" => pure (.system message)
    | "Transport" => pure (.transport (.reported message))
    | "Firmware" => pure (.firmware (.worded message))
    | "Topology" => pure (.topology (.worded message))
    | "Config" => pure (.settings (.worded message))
    | "InvalidArgument" => pure (.argument (.worded message))
    | _ => pure (.encoding message)
  let contexts ← document.listAt Document.asText "contexts"
  pure (contexts.foldl (fun cause context => .inContext context cause) root)

end DspInspector

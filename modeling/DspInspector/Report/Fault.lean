import DspInspector.Fault
import DspInspector.Report.Basic

/-!
# Failures as documents

A failure is an object with its kind and its message.
-/

namespace DspInspector

/-- A failure of a kind. -/
def Document.failure (kind message : String) (more : List (String × Document)) : Document :=
  .object ([("error", .text kind), ("message", .text message)] ++ more)

/-- The kind of a failure of reading. -/
def WireError.kind : WireError → String
  | .endOfStream => "EndOfStream"
  | .invalid _ => "Invalid"

/-- A failure of reading. -/
def WireError.document (cause : WireError) : Document := .failure cause.kind cause.message []

/-- The kind of a failure of a value. -/
def Tlv.ValueError.kind : Tlv.ValueError → String
  | .unreadable _ => "Read"
  | .leftover => "NotFullyConsumed"
  | .element _ => "Element"
  | .endless => "Endless"

/-- A failure of a value. -/
def Tlv.ValueError.document (cause : Tlv.ValueError) : Document := .failure cause.kind cause.message []

/-- The kind of a failure of a record. -/
def Tlv.RecordError.kind : Tlv.RecordError → String
  | .unreadable _ => "Read"
  | .unknownTag _ => "UnknownTag"
  | .badSize _ _ => "InvalidSize"
  | .badValue _ _ => "Value"

/-- A failure of a record, with its tag. -/
def Tlv.RecordError.document (cause : Tlv.RecordError) : Document :=
  .failure cause.kind cause.message [("tag", .optional .word cause.tag?)]

/-- The kind of a failure of probing. -/
def ProbeError.kind : ProbeError → String
  | .driver _ => "Driver"
  | .stageRead _ => "StateRead"
  | .stageWrite _ => "StateWrite"
  | .unexpectedStage _ => "UnexpectedState"
  | .invalidSlot _ => "InvalidProbeIndex"
  | .probeCount _ _ => "ProbeCount"
  | .configWhileActive => "ConfigWhileActive"
  | .tooManyExtractions _ => "TooManyExtractionProbes"
  | .tooManyInjections _ => "TooManyInjectionProbes"
  | .unknownProbe _ => "UnknownProbe"
  | .wrongProbe _ => "WrongProbe"
  | .duplicatePoint _ => "DuplicateProbePoint"
  | .missingSampleSize _ => "MissingSampleSize"
  | .zeroSampleSize _ => "ZeroSampleSize"
  | .unsupportedPinType _ => "UnsupportedPinType"
  | .invalidPinIndex _ _ => "InvalidPinIndex"
  | .unsupportedBitDepth _ => "UnsupportedBitDepth"
  | .workerAborted _ _ => "WorkerAborted"

/-- A failure of probing. -/
def ProbeError.document (cause : ProbeError) : Document := .failure cause.kind cause.message []

/-- The kind of a fault. -/
def Fault.kind : Fault → String
  | .wire _ => "Stream"
  | .record _ => "Tlv"
  | .transport _ => "Transport"
  | .firmware _ => "Firmware"
  | .topology _ => "Topology"
  | .probe _ => "Probe"
  | .settings _ => "Config"
  | .argument _ => "InvalidArgument"
  | .system _ => "Io"
  | .encoding _ => "Serialization"
  | .overflow => "panic"
  | .inContext _ _ => "WithContext"

/-- A fault; in a context, with the kind of its root cause. -/
def Fault.document (cause : Fault) : Document :=
  .failure cause.kind cause.message <|
    match cause with
    | .inContext _ _ => [("root", .text cause.root.kind)]
    | _ => []

end DspInspector

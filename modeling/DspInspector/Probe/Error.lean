import DspInspector.Probe.Session

/-!
# Failures of the probe service
-/

namespace DspInspector

/-- How far the driver has got on the way to streaming. -/
inductive Stage where
  | idle
  | owned
  | allocated
  | active
  deriving DecidableEq

/-- The name of a stage. -/
def Stage.text : Stage → String
  | .idle => "Idle"
  | .owned => "Owned"
  | .allocated => "Allocated"
  | .active => "Active"

/-- The way samples flow: from a probe point to the host, or back. -/
inductive Flow where
  | extraction
  | injection
  deriving DecidableEq

/-- The name of a flow in a message. -/
def Flow.text : Flow → String
  | .extraction => "extraction"
  | .injection => "injection"

/-- What can go wrong while probing. -/
inductive ProbeError where
  /-- Reported by the driver itself. -/
  | driver (message : String)
  | stageRead (message : String)
  | stageWrite (message : String)
  | unexpectedStage (stage : Stage)
  | invalidSlot (slot : Nat)
  | probeCount (expected actual : Nat)
  | configWhileActive
  | tooManyExtractions (count : Nat)
  | tooManyInjections (count : Nat)
  | unknownProbe (slot : Nat)
  | wrongProbe (slot : Nat)
  | duplicatePoint (point : ProbePoint)
  | missingSampleSize (slot : Nat)
  | zeroSampleSize (slot : Nat)
  | unsupportedPinType (type : Coded ProbeType)
  | invalidPinIndex (index : UInt32) (count : Nat)
  | unsupportedBitDepth (depth : Nat)
  /-- A streaming worker stopped on a failure. -/
  | workerAborted (flow : Flow) (reason : String)
  deriving DecidableEq

/-- The failure as it is shown to a person. -/
def ProbeError.message : ProbeError → String
  | .driver message => message
  | .stageRead message => "Unable to get state from driver: " ++ message
  | .stageWrite message => "Unable to set state to driver: " ++ message
  | .unexpectedStage stage => s!"Unexpected driver probe service state: {stage.text}"
  | .invalidSlot slot => s!"Invalid probe index: {slot}"
  | .probeCount expected actual =>
    s!"Expected to receive {expected} probe configurations to set. (Actually received {actual})"
  | .configWhileActive => "Probe configuration cannot change while the probe service is active"
  | .tooManyExtractions count => s!"Exceed max extraction probes supported: {count}"
  | .tooManyInjections count => s!"Exceed max injection probes supported: {count}"
  | .unknownProbe slot => s!"Unknown probe id: {slot}"
  | .wrongProbe slot => s!"Wrong probe id: {slot}"
  | .duplicatePoint point =>
    "Two active extraction probes have the same probe point id: " ++ point.text
  | .missingSampleSize slot => s!"Sample byte size not found for injection probe id {slot}"
  | .zeroSampleSize slot => s!"Sample byte size must be greater than 0 for injection probe id {slot}"
  | .unsupportedPinType type => "Unsupported pin type: " ++ type.text
  | .invalidPinIndex index count => s!"Invalid pin index: {index.toNat} max: {count}"
  | .unsupportedBitDepth depth => s!"Unsupported format bit depth: {depth} (should be a multiple of 8)"
  | .workerAborted flow reason => s!"Aborting probe {flow.text} due to: " ++ reason

end DspInspector

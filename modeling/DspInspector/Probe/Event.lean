/-!
# Worker events

What the streaming workers have to tell.
-/

namespace DspInspector

/-- A notification of a streaming worker. -/
inductive WorkerEvent where
  /-- The extraction stream reached its end. -/
  | extractionFinished
  | extractionAborted (reason : String)
  | injectionAborted (channel : Nat) (reason : String)
  /-- A packet was lost because its queue was full or closed. -/
  | packetDropped (channel : Nat)
  deriving DecidableEq

end DspInspector

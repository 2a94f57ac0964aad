import DspInspector.Probe.Error
import DspInspector.Probe.Router

/-!
# The extraction worker

The worker reads the driver's stream chunk by chunk and routes what it reads, until the stream ends,
the stream fails, or it carries something that is not a packet. It tells which of the three it was,
once, and reads no further. The queues are emptied when it starts, not when it stops, so that a
client can still read a finished session.
-/

namespace DspInspector

/-- What the worker gets when it reads the stream. -/
inductive Reading where
  /-- A piece of the stream; an empty one when nothing arrived in time. -/
  | chunk (bytes : List UInt8)
  | ended
  | failed (cause : ProbeError)

/-- A worker that was started. -/
structure Extractor where
  /-- The worker still reads. -/
  isRunning : Bool
  router : Router

/-- A worker, the queues it fills and the events it has caused. -/
structure Extraction where
  extractor : Extractor
  queues : List BlockQueue
  events : List WorkerEvent

namespace Extraction

/-- Empties the queues and starts a worker. -/
def start (points : OrderedMap ProbePoint Nat) (queues : List BlockQueue) (events : List WorkerEvent) :
    Extraction where
  extractor := ⟨true, Router.start points queues⟩
  queues := queues.map BoundedQueue.cleared
  events

/-- The worker ends with an event. -/
def finish (event : WorkerEvent) (extraction : Extraction) : Extraction :=
  { extraction with
    extractor := { extraction.extractor with isRunning := false }
    events := extraction.events ++ [event] }

/-- The event of a failure. -/
def aborted (reason : String) : WorkerEvent :=
  .extractionAborted (ProbeError.workerAborted .extraction reason).message

/-- The routing part of a worker. -/
def routing (extraction : Extraction) : Routing :=
  ⟨extraction.extractor.router, extraction.queues, extraction.events⟩

/-- The worker after its router has worked. -/
def withRouting (extraction : Extraction) (after : Routing) : Extraction where
  extractor := { extraction.extractor with router := after.router }
  queues := after.queues
  events := after.events

/-- The worker reads once; a worker that has ended does not. -/
def receive (reading : Reading) (extraction : Extraction) : Extraction :=
  if extraction.extractor.isRunning then
    match reading with
    | .ended => extraction.finish .extractionFinished
    | .failed cause => extraction.finish (aborted cause.message)
    | .chunk bytes =>
      match Routing.feed bytes extraction.routing with
      | .ok _ after => extraction.withRouting after
      | .error cause after => (extraction.withRouting after).finish (aborted cause.message)
  else extraction

end Extraction

/-- The worker, told not to read any more. -/
def Extractor.stopped (extractor : Extractor) : Extractor := { extractor with isRunning := false }

end DspInspector

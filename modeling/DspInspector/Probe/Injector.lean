import DspInspector.Data.Action
import DspInspector.Probe.Error
import DspInspector.Probe.Event
import DspInspector.Probe.Feeder

/-!
# The injection worker

One worker runs for each active injection probe. It fills the driver's buffer when it starts, and
then again whenever the driver has room for at least one sample. A failure ends it. Its queue is
emptied when it is stopped, so that a later session does not begin with samples of this one.
-/

namespace DspInspector

/-- The driver's end of an injection channel. -/
structure Sink (δ : Type) where
  /-- The size of the driver's buffer in bytes. -/
  size : Nat
  write : List UInt8 → Action ProbeError δ Unit

/-- What the worker gets when it waits for room in the buffer. -/
inductive Grant where
  /-- The number of free bytes. -/
  | available (bytes : Nat)
  | failed (cause : ProbeError)

/-- A worker that was started. -/
structure Injector (δ : Type) where
  channel : Nat
  sink : Sink δ
  feeder : Feeder
  /-- The worker still waits for room. -/
  isRunning : Bool
  /-- The worker was stopped, and its queue emptied. -/
  isStopped : Bool

namespace Injector

variable {δ : Type}

/-- Writes the next samples into the buffer. -/
def writeSamples (sink : Sink δ) (count : Nat) (feeder : Feeder) :
    Action ProbeError (BlockQueue × δ) Feeder := fun (queue, device) =>
  let (bytes, feeder, queue) := feeder.next count queue
  match sink.write bytes device with
  | .ok _ device => .ok feeder (queue, device)
  | .error cause device => .error cause (queue, device)

/-- Fills the buffer and starts a worker. -/
def start (channel : Nat) (sink : Sink δ) (sampleBytes : Nat) :
    Action ProbeError (BlockQueue × δ) (Injector δ) := do
  let feeder ← writeSamples sink (sink.size / sampleBytes) { sampleBytes }
  pure { channel, sink, feeder, isRunning := true, isStopped := false }

/-- The event of a failure. -/
def aborted (channel : Nat) (cause : ProbeError) : WorkerEvent :=
  .injectionAborted channel (ProbeError.workerAborted .injection cause.message).message

/-- Writes as many whole samples as there is room for, if there is room for one. -/
def fill (grant : Grant) (injector : Injector δ) : Action ProbeError (BlockQueue × δ) Feeder :=
  match grant with
  | .failed cause => throw cause
  | .available bytes =>
    let count := bytes / injector.feeder.sampleBytes
    if 0 < count then writeSamples injector.sink count injector.feeder else pure injector.feeder

/-- The worker is told once about the room in the buffer; a worker that has ended does not listen. Gives
the worker, the events it caused, and the queue and the device after it. -/
def receive (grant : Grant) (injector : Injector δ) (queue : BlockQueue) (device : δ) :
    Injector δ × List WorkerEvent × BlockQueue × δ :=
  if injector.isRunning then
    match injector.fill grant (queue, device) with
    | .ok feeder after => ({ injector with feeder }, [], after)
    | .error cause after =>
      ({ injector with isRunning := false }, [aborted injector.channel cause], after)
  else (injector, [], queue, device)

/-- Stops the worker and empties its queue, the first time. -/
def stop (injector : Injector δ) (queue : BlockQueue) : Injector δ × BlockQueue :=
  ({ injector with isRunning := false, isStopped := true },
    if injector.isStopped then queue else queue.cleared)

end Injector

end DspInspector

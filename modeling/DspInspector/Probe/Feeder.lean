import DspInspector.Probe.Queue

/-!
# Samples out of blocks

Clients queue blocks of any length; the driver takes whole samples. The feeder cuts the blocks into
samples and carries over what is left of a block. When the host is late it gives silence, so that the
stream never stops.
-/

namespace DspInspector

/-- The size of a sample and the rest of the last block. -/
structure Feeder where
  sampleBytes : Nat
  carry : List UInt8 := []
  deriving DecidableEq

namespace Feeder

/-- Takes blocks until `wanted` bytes are there or the queue is empty: the bytes, the rest of the last
block, and the queue without the blocks. -/
def gather (wanted : Nat) (queue : BlockQueue) : List UInt8 × List UInt8 × BlockQueue :=
  if wanted = 0 then ([], [], queue)
  else
    match _ : queue.tryPop.1 with
    | none => ([], [], queue)
    | some block =>
      let (bytes, carry, after) := gather (wanted - block.length) queue.tryPop.2
      (block.take wanted ++ bytes, block.drop wanted ++ carry, after)
termination_by queue.items.length
decreasing_by exact BoundedQueue.length_of_tryPop ‹_›

/-- The next `count` samples, silence where the host has nothing. -/
def next (count : Nat) (feeder : Feeder) (queue : BlockQueue) : List UInt8 × Feeder × BlockQueue :=
  let wanted := count * feeder.sampleBytes
  let carried := feeder.carry.take wanted
  let (bytes, carry, after) := gather (wanted - carried.length) queue
  let host := carried ++ bytes
  (host ++ List.replicate (wanted - host.length) 0,
    { feeder with carry := feeder.carry.drop wanted ++ carry }, after)

end Feeder

end DspInspector

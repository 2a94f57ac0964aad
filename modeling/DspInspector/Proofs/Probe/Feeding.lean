import DspInspector.Probe.Feeder
import Mathlib.Data.List.TakeDrop

/-!
# What the feeder gives

The carry of a feeder and the blocks in its queue are one stock of host bytes. A call takes from the
front of the stock and fills up with silence (`Feeder.next_eq`); a block that the queue accepts goes to
its end. A run of such calls is followed with a ledger of what each call took from the stock
(`Feeding`), and nothing of the stock is ever lost (`Feeding.Settled`).
-/

namespace DspInspector

namespace Feeder

/-- The host bytes that are still to be given. -/
def stock (feeder : Feeder) (queue : BlockQueue) : List UInt8 := feeder.carry ++ queue.items.flatten

theorem gather_eq (wanted : Nat) (queue : BlockQueue) :
    (gather wanted queue).1 = queue.items.flatten.take wanted ∧
      (gather wanted queue).2.1 ++ (gather wanted queue).2.2.items.flatten =
        queue.items.flatten.drop wanted := by
  fun_induction gather wanted queue with
  | case1 queue => exact ⟨rfl, rfl⟩
  | case2 wanted queue _ dry =>
    have empty : queue.items = [] := by
      cases items : queue.items with
      | nil => rfl
      | cons block blocks => simp [BoundedQueue.tryPop, items] at dry
    simp [empty]
  | case3 wanted queue _ block popped bytes carry after gathered ih =>
    obtain ⟨block', blocks, items⟩ : ∃ first others, queue.items = first :: others := by
      cases items : queue.items with
      | nil => simp [BoundedQueue.tryPop, items] at popped
      | cons first others => exact ⟨first, others, rfl⟩
    have same : block' = block := by simpa [BoundedQueue.tryPop, items] using popped
    have rest : queue.tryPop.2.items = blocks := by simp [BoundedQueue.tryPop, items]
    rw [gathered, rest] at ih
    obtain ⟨taken, left⟩ := ih
    dsimp only at taken left ⊢
    constructor
    · rw [items, same, List.flatten_cons, List.take_append, taken]
    · rw [items, same, List.flatten_cons, List.drop_append, List.append_assoc, left]

/-- A call takes the front of the stock and fills up with silence. -/
theorem next_eq (count : Nat) (feeder : Feeder) (queue : BlockQueue) :
    (feeder.next count queue).1 = (feeder.stock queue).take (count * feeder.sampleBytes) ++
        List.replicate (count * feeder.sampleBytes - (feeder.stock queue).length) 0 ∧
      (feeder.next count queue).2.1.sampleBytes = feeder.sampleBytes ∧
      (feeder.next count queue).2.1.stock (feeder.next count queue).2.2 =
        (feeder.stock queue).drop (count * feeder.sampleBytes) := by
  have missing (bytes : List UInt8) : count * feeder.sampleBytes -
      (bytes.take (count * feeder.sampleBytes)).length = count * feeder.sampleBytes - bytes.length := by
    rw [List.length_take]
    omega
  obtain ⟨taken, left⟩ := gather_eq (count * feeder.sampleBytes - feeder.carry.length) queue
  rcases gathered : gather (count * feeder.sampleBytes - feeder.carry.length) queue with
    ⟨bytes, carry, after⟩
  rw [gathered] at taken left
  dsimp only at taken left
  have host : feeder.carry.take (count * feeder.sampleBytes) ++ bytes =
      (feeder.stock queue).take (count * feeder.sampleBytes) := by
    rw [taken, stock, List.take_append]
  simp only [next, missing, gathered, host, true_and]
  rw [stock, List.append_assoc, left, stock, List.drop_append]

end Feeder

/-! ## Runs -/

/-- A client pushes a block, or the worker asks for samples. -/
inductive FeederCall where
  | push (block : List UInt8)
  | next (count : Nat)

/-- What one call gave: host bytes, then zeros. -/
structure Portion where
  host : List UInt8
  silence : Nat
  deriving DecidableEq

namespace Portion

/-- The bytes of the portion. -/
def bytes (portion : Portion) : List UInt8 := portion.host ++ List.replicate portion.silence 0

/-- The bytes of the portion, silence marked as such. -/
def marked (portion : Portion) : List (Option UInt8) :=
  portion.host.map some ++ List.replicate portion.silence none

end Portion

/-- A feeder and its queue after some calls: the blocks that were accepted and the outputs that were
given, with a ledger of the portions. -/
structure Feeding where
  feeder : Feeder
  queue : BlockQueue
  accepted : List (List UInt8)
  outputs : List (List UInt8)
  portions : List Portion

namespace Feeding

/-- A new feeder over a queue. -/
def fresh (sampleBytes : Nat) (queue : BlockQueue) : Feeding where
  feeder := { sampleBytes }
  queue
  accepted := queue.items
  outputs := []
  portions := []

/-- The portion that the next call takes. -/
def portion (feeding : Feeding) (count : Nat) : Portion where
  host := (feeding.feeder.stock feeding.queue).take (count * feeding.feeder.sampleBytes)
  silence := count * feeding.feeder.sampleBytes - (feeding.feeder.stock feeding.queue).length

def step (feeding : Feeding) : FeederCall → Feeding
  | .push block =>
    let (accepts, queue) := feeding.queue.tryPush block
    { feeding with queue, accepted := if accepts then feeding.accepted ++ [block] else feeding.accepted }
  | .next count =>
    let (bytes, feeder, queue) := feeding.feeder.next count feeding.queue
    { feeding with feeder, queue, outputs := feeding.outputs ++ [bytes],
                   portions := feeding.portions ++ [feeding.portion count] }

def run (feeding : Feeding) (calls : List FeederCall) : Feeding := calls.foldl step feeding

/-- The ledger is right: it has the outputs, each of whole samples, and the accepted bytes are those that
were given and those still in stock. -/
structure Settled (sampleBytes : Nat) (feeding : Feeding) : Prop where
  size : feeding.feeder.sampleBytes = sampleBytes
  outputs : feeding.outputs = feeding.portions.map Portion.bytes
  samples : ∀ portion ∈ feeding.portions, (portion.host.length + portion.silence) % sampleBytes = 0
  conserved : feeding.accepted.flatten =
    feeding.portions.flatMap Portion.host ++ feeding.feeder.stock feeding.queue

theorem settled_fresh (sampleBytes : Nat) (queue : BlockQueue) : (fresh sampleBytes queue).Settled sampleBytes where
  size := rfl
  outputs := rfl
  samples := by simp [fresh]
  conserved := by simp [fresh, Feeder.stock]

/-- Only a push that the queue refuses changes nothing. -/
theorem step_push (feeding : Feeding) (block : List UInt8) :
    feeding.step (.push block) = feeding ∨ feeding.step (.push block) =
      { feeding with queue := feeding.queue.append block, accepted := feeding.accepted ++ [block] } := by
  by_cases taken : (feeding.queue.isOpen && feeding.queue.fits block) = true
  · right
    simp only [step, BoundedQueue.tryPush, taken, if_true]
  · left
    simp only [step, BoundedQueue.tryPush, taken, if_false, Bool.false_eq_true]

theorem stock_append (feeder : Feeder) (queue : BlockQueue) (block : List UInt8) :
    feeder.stock (queue.append block) = feeder.stock queue ++ block := by
  simp [Feeder.stock, BoundedQueue.append]

theorem Settled.step {sampleBytes : Nat} {feeding : Feeding} (settled : feeding.Settled sampleBytes)
    (call : FeederCall) : (feeding.step call).Settled sampleBytes := by
  cases call with
  | push block =>
    obtain same | changed := feeding.step_push block
    · rw [same]
      exact settled
    · rw [changed]
      refine ⟨settled.size, settled.outputs, settled.samples, ?_⟩
      simp only [List.flatten_append, settled.conserved, stock_append]
      simp
  | next count =>
    obtain ⟨bytes, size, stock⟩ := Feeder.next_eq count feeding.feeder feeding.queue
    refine ⟨size.trans settled.size, ?_, ?_, ?_⟩
    · show feeding.outputs ++ [(feeding.feeder.next count feeding.queue).1] = _
      rw [bytes, settled.outputs, Feeding.step, List.map_append]
      rfl
    · intro portion member
      obtain earlier | last := List.mem_append.mp member
      · exact settled.samples portion earlier
      · rw [List.mem_singleton.mp last, Feeding.portion, List.length_take, settled.size]
        have whole : count * sampleBytes % sampleBytes = 0 := Nat.mul_mod_left count sampleBytes
        have sum : min (count * sampleBytes) (feeding.feeder.stock feeding.queue).length +
            (count * sampleBytes - (feeding.feeder.stock feeding.queue).length) = count * sampleBytes := by
          omega
        rw [sum, whole]
    · show feeding.accepted.flatten = (feeding.portions ++ [feeding.portion count]).flatMap Portion.host ++
        (feeding.feeder.next count feeding.queue).2.1.stock (feeding.feeder.next count feeding.queue).2.2
      rw [stock, List.flatMap_append, List.flatMap_singleton, Feeding.portion, List.append_assoc,
        List.take_append_drop]
      exact settled.conserved

/-- What was accepted stays accepted. -/
theorem accepted_subset_step (feeding : Feeding) (call : FeederCall) :
    feeding.accepted ⊆ (feeding.step call).accepted := by
  cases call with
  | push block =>
    obtain same | changed := feeding.step_push block
    · rw [same]
      exact List.Subset.refl _
    · rw [changed]
      exact List.subset_append_left _ _
  | next count => exact List.Subset.refl _

theorem accepted_subset_run (feeding : Feeding) (calls : List FeederCall) :
    feeding.accepted ⊆ (feeding.run calls).accepted := by
  induction calls generalizing feeding with
  | nil => exact List.Subset.refl _
  | cons call calls ih => exact List.Subset.trans (feeding.accepted_subset_step call) (ih _)

theorem Settled.run {sampleBytes : Nat} {feeding : Feeding} (settled : feeding.Settled sampleBytes)
    (calls : List FeederCall) : (feeding.run calls).Settled sampleBytes := by
  induction calls generalizing feeding with
  | nil => exact settled
  | cons call calls ih => exact ih (settled.step call)

end Feeding

end DspInspector

import DspInspector.Proofs.Probe.Floor

/-!
# No host byte is lost on the way

A feeder takes its blocks one at a time, so clients may push between two of them, also while a call for samples is
under way (`FeederMove.fetch`; without a push in between this makes no difference to the call, see `next_fetch`).
However that goes, what the calls have given, what is carried over and what is queued are the accepted bytes in
order, and a call that falls back on silence has left nothing behind (`host_bytes_in_order`).
-/

namespace DspInspector

namespace Feeder

/-- When the blocks do not suffice, all of them are taken. -/
theorem items_gather (wanted : Nat) (queue : BlockQueue) (short : queue.items.flatten.length < wanted) :
    (gather wanted queue).2.2.items = [] := by
  fun_induction gather wanted queue with
  | case1 queue => exact absurd short (Nat.not_lt_zero _)
  | case2 wanted queue _ dry =>
    cases items : queue.items with
    | nil => rfl
    | cons block blocks => simp [BoundedQueue.tryPop, items] at dry
  | case3 wanted queue _ block popped bytes carry after gathered ih =>
    rw [gathered] at ih
    apply ih
    cases items : queue.items with
    | nil => simp [BoundedQueue.tryPop, items] at popped
    | cons first blocks =>
      have same : first = block := by simpa [BoundedQueue.tryPop, items] using popped
      rw [items, same, List.flatten_cons, List.length_append] at short
      simp only [BoundedQueue.tryPop, items]
      omega

/-- A call that falls back on silence leaves nothing to give. -/
theorem next_drains {count : Nat} {feeder : Feeder} {queue : BlockQueue}
    (silent : 0 < (feeder.portion count queue).silence) :
    (feeder.next count queue).2.1.carry = [] ∧ (feeder.next count queue).2.2.items = [] := by
  have short : (feeder.stock queue).length < count * feeder.sampleBytes := by
    simp only [portion] at silent
    omega
  obtain ⟨-, -, left⟩ := next_eq count feeder queue
  rw [List.drop_of_length_le (Nat.le_of_lt short), stock, List.append_eq_nil_iff] at left
  refine ⟨left.1, ?_⟩
  rw [stock, List.length_append] at short
  apply items_gather
  rw [List.length_take]
  omega

theorem length_portion (count : Nat) (feeder : Feeder) (queue : BlockQueue) :
    (feeder.portion count queue).bytes.length = count * feeder.sampleBytes := by
  simp only [Portion.bytes, portion, List.length_append, List.length_take, List.length_replicate]
  omega

end Feeder

/-- What happens at the queue of a feeder. -/
inductive FeederMove where
  | call (call : FeederCall)
  /-- A call for so many samples, while it still wants bytes, takes a block. -/
  | fetch (count : Nat)

namespace Feeding

/-- What a move comes to. -/
def move (feeding : Feeding) : FeederMove → Feeding
  | .call call => feeding.step call
  | .fetch count =>
    if feeding.feeder.carry.length < count * feeding.feeder.sampleBytes then
      let (feeder, queue) := feeding.feeder.fetch feeding.queue
      { feeding with feeder, queue }
    else feeding

/-- The feeder and its queue after some moves. -/
def after (feeding : Feeding) (moves : List FeederMove) : Feeding := moves.foldl move feeding

variable {sampleBytes : Nat} {feeding : Feeding}

theorem Settled.move (settled : feeding.Settled sampleBytes) (move : FeederMove) :
    (feeding.move move).Settled sampleBytes := by
  cases move with
  | call call => exact settled.step call
  | fetch count =>
    simp only [Feeding.move]
    split
    · have size : (feeding.feeder.fetch feeding.queue).1.sampleBytes = feeding.feeder.sampleBytes := by
        unfold Feeder.fetch
        split <;> rfl
      have stock := (Feeder.drawn_fetch feeding.feeder feeding.queue).stock
      rw [List.nil_append] at stock
      refine ⟨size.trans settled.size, settled.outputs, settled.samples, ?_⟩
      rw [stock]
      exact settled.conserved
    · exact settled

theorem Settled.after (settled : feeding.Settled sampleBytes) (moves : List FeederMove) :
    (feeding.after moves).Settled sampleBytes := by
  induction moves generalizing feeding with
  | nil => exact settled
  | cons move moves ih => exact ih (settled.move move)

/-- Whatever is pushed and asked for, the host bytes that were given, those carried over and those queued are the
accepted ones in order. A call gives as many bytes as it is asked for, and where some of them are silence, nothing is
carried over or queued when it is done. -/
theorem host_bytes_in_order (sampleBytes : Nat) (queue : BlockQueue) (moves : List FeederMove) :
    let feeding := (fresh sampleBytes queue).after moves
    feeding.outputs = feeding.portions.map Portion.bytes ∧
      feeding.portions.flatMap Portion.host ++ feeding.feeder.carry ++ feeding.queue.items.flatten =
        feeding.accepted.flatten ∧
      ∀ count, ∃ portion : Portion,
        (feeding.move (.call (.next count))).portions = feeding.portions ++ [portion] ∧
        portion.bytes.length = count * sampleBytes ∧
        (0 < portion.silence → (feeding.move (.call (.next count))).feeder.carry = [] ∧
          (feeding.move (.call (.next count))).queue.items = []) := by
  intro feeding
  have settled : feeding.Settled sampleBytes := (settled_fresh sampleBytes queue).after moves
  refine ⟨settled.outputs, ?_, fun count => ⟨feeding.portion count, rfl, ?_, Feeder.next_drains⟩⟩
  · rw [settled.conserved, Feeder.stock, List.append_assoc]
  · rw [← settled.size]
    exact Feeder.length_portion count feeding.feeder feeding.queue

/-- A call has taken a block when an empty one is pushed; it then runs dry. -/
def interrupted : Feeding :=
  (fresh 2 (BlockQueue.ofBudget 16).opened).after
    [.call (.push [1, 2, 3]), .call (.next 1), .call (.push [4]), .fetch 3, .call (.push [])]

theorem interrupted_drained :
    interrupted.accepted = [[1, 2, 3], [4], []] ∧ interrupted.queue.items = [[]] ∧
      (interrupted.move (.call (.next 3))).outputs = [[1, 2], [3, 4, 0, 0, 0, 0]] ∧
      (interrupted.move (.call (.next 3))).feeder.carry = [] ∧
      (interrupted.move (.call (.next 3))).queue.items = [] := by
  obtain ⟨-, -, calls⟩ := host_bytes_in_order 2 (BlockQueue.ofBudget 16).opened
    [.call (.push [1, 2, 3]), .call (.next 1), .call (.push [4]), .fetch 3, .call (.push [])]
  obtain ⟨portion, portions, -, drained⟩ := calls 3
  have given : (interrupted.move (.call (.next 3))).portions = [⟨[1, 2], 0⟩, ⟨[3, 4], 4⟩] := by decide +kernel
  have before : interrupted.portions = [⟨[1, 2], 0⟩] := by decide +kernel
  have last : portion = ⟨[3, 4], 4⟩ := by
    rw [← interrupted, given, before] at portions
    simpa using portions.symm
  obtain ⟨carry, items⟩ := drained (by rw [last]; decide)
  exact ⟨by decide +kernel, by decide +kernel, by decide +kernel, carry, items⟩

end Feeding

end DspInspector

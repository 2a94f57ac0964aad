import DspInspector.Graph.Link
import Mathlib.Data.List.Perm.Basic

/-!
# First fit serves each queue in order

`Matching.firstFit` searches a list of free inputs for every output and takes the first one on its
queue out of the list. Seen queue by queue this is first come, first served: the `k`-th output on a
queue gets the `k`-th input on it (`fifo`), and what is left on each side are the pins whose rank on
their queue is beyond the other side (`surplus`). The invariant of the search is that the free inputs
are the surplus over the outputs served so far (`firstFit_after`).
-/

namespace DspInspector.Matching

/-- The pins on a queue, in order. -/
def onQueue (queue : UInt32) (pins : List Endpoint) : List Endpoint :=
  pins.filter fun pin => pin.queueId == queue

/-- The number of pins on a queue. -/
def countOn (queue : UInt32) (pins : List Endpoint) : Nat := (onQueue queue pins).length

/-- Each pin with its rank: how many pins on its queue stand before it, those of `before` included. -/
def rankedAfter : (before pins : List Endpoint) → List (Endpoint × Nat)
  | _, [] => []
  | before, pin :: pins => (pin, countOn pin.queueId before) :: rankedAfter (before ++ [pin]) pins

/-- Each ranked output with the input of its rank on its queue, if there is one. -/
def partners (inputs : List Endpoint) (outputs : List (Endpoint × Nat)) : List (Endpoint × Endpoint) :=
  outputs.filterMap fun (output, rank) =>
    ((onQueue output.queueId inputs)[rank]?).map fun input => (output, input)

/-- The ranked pins for which the others on their queue do not suffice. -/
def unserved (others : List Endpoint) (pins : List (Endpoint × Nat)) : List Endpoint :=
  (pins.filter fun (pin, rank) => countOn pin.queueId others ≤ rank).map (·.1)

/-- The `k`-th output on each queue with the `k`-th input on it, in the order of the outputs. -/
def fifo (outputs inputs : List Endpoint) : List (Endpoint × Endpoint) :=
  partners inputs (rankedAfter [] outputs)

/-- The pins whose rank on their queue is not below the number of `others` on it. -/
def surplus (pins others : List Endpoint) : List Endpoint :=
  unserved others (rankedAfter [] pins)

/-- The link of an output with its input. -/
def linkOf (pair : Endpoint × Endpoint) : Link := Link.between pair.1 pair.2

/-! ## Pins on one queue -/

@[simp] theorem onQueue_nil (queue : UInt32) : onQueue queue [] = [] := rfl

@[simp] theorem onQueue_append (queue : UInt32) (first second : List Endpoint) :
    onQueue queue (first ++ second) = onQueue queue first ++ onQueue queue second :=
  List.filter_append ..

theorem onQueue_cons_same {queue : UInt32} {pin : Endpoint} (same : pin.queueId = queue)
    (pins : List Endpoint) : onQueue queue (pin :: pins) = pin :: onQueue queue pins := by
  simp [onQueue, same]

theorem onQueue_cons_other {queue : UInt32} {pin : Endpoint} (other : pin.queueId ≠ queue)
    (pins : List Endpoint) : onQueue queue (pin :: pins) = onQueue queue pins := by
  simp [onQueue, other]

theorem mem_onQueue {queue : UInt32} {pin : Endpoint} {pins : List Endpoint} :
    pin ∈ onQueue queue pins ↔ pin ∈ pins ∧ pin.queueId = queue := by
  simp [onQueue]

@[simp] theorem countOn_nil (queue : UInt32) : countOn queue [] = 0 := rfl

@[simp] theorem countOn_append (queue : UInt32) (first second : List Endpoint) :
    countOn queue (first ++ second) = countOn queue first + countOn queue second := by
  simp [countOn]

@[simp] theorem countOn_cons (queue : UInt32) (pin : Endpoint) (pins : List Endpoint) :
    countOn queue (pin :: pins) = countOn queue pins + if pin.queueId = queue then 1 else 0 := by
  by_cases same : pin.queueId = queue
  · simp [countOn, onQueue_cons_same same, same]
  · simp [countOn, onQueue_cons_other same, same]

theorem countOn_snoc_same {queue : UInt32} {pin : Endpoint} (same : pin.queueId = queue)
    (pins : List Endpoint) : countOn queue (pins ++ [pin]) = countOn queue pins + 1 := by
  simp [same]

theorem countOn_snoc_other {queue : UInt32} {pin : Endpoint} (other : pin.queueId ≠ queue)
    (pins : List Endpoint) : countOn queue (pins ++ [pin]) = countOn queue pins := by
  simp [other]

theorem countOn_perm {first second : List Endpoint} (same : first.Perm second) (queue : UInt32) :
    countOn queue first = countOn queue second :=
  (same.filter _).length_eq

theorem countOn_map {α : Type} (queue : UInt32) (pin : α → Endpoint) (items : List α) :
    countOn queue (items.map pin) = items.countP fun item => (pin item).queueId == queue := by
  rw [countOn, onQueue, ← List.countP_eq_length_filter, List.countP_map]
  rfl

/-- Lists that agree on every queue hold the same pins. -/
theorem perm_of_onQueue {first second : List Endpoint}
    (same : ∀ queue, (onQueue queue first).Perm (onQueue queue second)) : first.Perm second := by
  rw [List.perm_iff_count]
  intro pin
  have counts := List.perm_iff_count.mp (same pin.queueId) pin
  rwa [onQueue, onQueue, List.count_filter (by simp), List.count_filter (by simp)] at counts

/-! ## The search for a free input -/

/-- The first free input on a queue is the one after those already served. -/
private theorem find_unserved (others : List Endpoint) (queue : UInt32) :
    ∀ inputs before, countOn queue before ≤ countOn queue others →
      (unserved others (rankedAfter before inputs)).find? (·.queueId == queue) =
        (onQueue queue inputs)[countOn queue others - countOn queue before]?
  | [], _, _ => rfl
  | pin :: pins, before, served => by
    have later := find_unserved others queue pins (before ++ [pin])
    by_cases same : pin.queueId = queue
    · rw [onQueue_cons_same same]
      by_cases next : countOn queue others ≤ countOn queue before
      · have first : countOn queue others - countOn queue before = 0 := by omega
        simp [unserved, rankedAfter, same, next, first]
      · have more : countOn queue others - countOn queue before =
            countOn queue others - (countOn queue before + 1) + 1 := by omega
        rw [countOn_snoc_same same] at later
        rw [more, List.getElem?_cons_succ, ← later (by omega)]
        simp [unserved, rankedAfter, same, next]
    · rw [countOn_snoc_other same] at later
      rw [onQueue_cons_other same, ← later served]
      simp only [unserved, rankedAfter, List.filter_cons]
      split <;> simp [same]

variable {others more : List Endpoint} {queue : UInt32}

/-- Once as many pins on a queue have passed, one more of the others there serves no later pin. -/
private theorem unserved_beyond
    (elsewhere : ∀ other, other ≠ queue → countOn other more = countOn other others)
    (onward : countOn queue more = countOn queue others + 1) :
    ∀ pins before, countOn queue others < countOn queue before →
      unserved more (rankedAfter before pins) = unserved others (rankedAfter before pins)
  | [], _, _ => rfl
  | pin :: pins, before, beyond => by
    have later := unserved_beyond elsewhere onward pins (before ++ [pin]) (by simp; omega)
    simp only [unserved, rankedAfter, List.filter_cons] at later ⊢
    by_cases same : pin.queueId = queue
    · have kept : countOn queue others ≤ countOn queue before := by omega
      have still : countOn queue more ≤ countOn queue before := by omega
      simp [same, kept, still, later]
    · rw [elsewhere _ same]
      split
      · simp [later]
      · exact later

/-- Taking out the first free input on a queue leaves what is free once one more there is served. -/
private theorem eraseP_unserved
    (elsewhere : ∀ other, other ≠ queue → countOn other more = countOn other others)
    (onward : countOn queue more = countOn queue others + 1) :
    ∀ inputs before, countOn queue before ≤ countOn queue others →
      (unserved others (rankedAfter before inputs)).eraseP (·.queueId == queue) =
        unserved more (rankedAfter before inputs)
  | [], _, _ => rfl
  | pin :: pins, before, served => by
    have later := eraseP_unserved elsewhere onward pins (before ++ [pin])
    by_cases same : pin.queueId = queue
    · have taken : ¬ countOn queue more ≤ countOn queue before := by omega
      by_cases next : countOn queue others ≤ countOn queue before
      · have beyond := unserved_beyond elsewhere onward pins (before ++ [pin]) (by simp [same]; omega)
        simpa [unserved, rankedAfter, same, next, taken] using beyond.symm
      · rw [countOn_snoc_same same] at later
        simpa [unserved, rankedAfter, same, next, taken] using later (by omega)
    · rw [countOn_snoc_other same] at later
      simp only [unserved, rankedAfter, List.filter_cons, elsewhere _ same] at later ⊢
      split
      · simpa [same] using later served
      · exact later served

/-- The search takes the first free input on the queue of an output, if there is one. -/
private theorem firstFit_cons (output : Endpoint) (outputs inputs : List Endpoint) :
    firstFit (output :: outputs) inputs =
      let later := firstFit outputs (inputs.eraseP (·.queueId == output.queueId))
      match inputs.find? (·.queueId == output.queueId) with
      | some input => { later with links := Link.between output input :: later.links }
      | none => { later with outputs := output :: later.outputs } := by
  rw [firstFit, List.eraseP_eq_eraseIdx, List.find?_eq_bind_findIdx?_getElem?]
  cases found : inputs.findIdx? (·.queueId == output.queueId) with
  | none => rfl
  | some place =>
    have inside : place < inputs.length := (List.findIdx?_eq_some_iff_getElem.mp found).1
    simp [inside]

/-- After the outputs `before`, the free inputs are the surplus over them; the outputs after that get
the inputs of their ranks. -/
theorem firstFit_after (inputs : List Endpoint) :
    ∀ outputs before, firstFit outputs (surplus inputs before) =
      ⟨(partners inputs (rankedAfter before outputs)).map linkOf,
        unserved inputs (rankedAfter before outputs), surplus inputs (before ++ outputs)⟩
  | [], before => by simp [firstFit, rankedAfter, partners, unserved]
  | output :: outputs, before => by
    have found := find_unserved before output.queueId inputs [] (Nat.zero_le _)
    have left : (unserved before (rankedAfter [] inputs)).eraseP (·.queueId == output.queueId) =
        unserved (before ++ [output]) (rankedAfter [] inputs) :=
      eraseP_unserved (fun other ne => by simp [ne.symm]) (by simp) inputs [] (Nat.zero_le _)
    have later := firstFit_after inputs outputs (before ++ [output])
    simp only [countOn_nil, Nat.sub_zero] at found
    rw [firstFit_cons, surplus, found, left, ← surplus, later]
    cases partner : (onQueue output.queueId inputs)[countOn output.queueId before]? with
    | some input =>
      obtain ⟨inside, _⟩ := List.getElem?_eq_some_iff.mp partner
      have enough : ¬ countOn output.queueId inputs ≤ countOn output.queueId before := by
        simpa [countOn] using inside
      simp [rankedAfter, partners, unserved, partner, enough, linkOf]
    | none =>
      have exhausted : countOn output.queueId inputs ≤ countOn output.queueId before :=
        List.getElem?_eq_none_iff.mp partner
      simp [rankedAfter, partners, unserved, partner, exhausted]

/-- Without others nothing is served. -/
private theorem unserved_nil : ∀ pins before, unserved [] (rankedAfter before pins) = pins
  | [], _ => rfl
  | pin :: pins, before => by
    have later := unserved_nil pins (before ++ [pin])
    simpa [unserved, rankedAfter] using later

/-- First fit links the pins of equal rank on each queue and leaves the surplus on both sides. -/
theorem firstFit_eq (outputs inputs : List Endpoint) :
    firstFit outputs inputs =
      ⟨(fifo outputs inputs).map linkOf, surplus outputs inputs, surplus inputs outputs⟩ := by
  have served := firstFit_after inputs outputs []
  rwa [surplus, unserved_nil, List.nil_append] at served

/-! ## One queue at a time -/

/-- On one queue the surplus is what comes after as many pins as there are others. -/
private theorem onQueue_unserved (others : List Endpoint) (queue : UInt32) :
    ∀ pins before, onQueue queue (unserved others (rankedAfter before pins)) =
      (onQueue queue pins).drop (countOn queue others - countOn queue before)
  | [], before => by simp [unserved, rankedAfter]
  | pin :: pins, before => by
    have later := onQueue_unserved others queue pins (before ++ [pin])
    by_cases same : pin.queueId = queue
    · rw [onQueue_cons_same same]
      rw [countOn_snoc_same same] at later
      by_cases kept : countOn queue others ≤ countOn queue before
      · have none : countOn queue others - countOn queue before = 0 := by omega
        have still : countOn queue others - (countOn queue before + 1) = 0 := by omega
        rw [still, List.drop_zero] at later
        rw [none, List.drop_zero, ← later, ← onQueue_cons_same same]
        simp [unserved, rankedAfter, same, kept]
      · have more : countOn queue others - countOn queue before =
            countOn queue others - (countOn queue before + 1) + 1 := by omega
        rw [more, List.drop_succ_cons, ← later]
        simp [unserved, rankedAfter, same, kept]
    · rw [onQueue_cons_other same]
      rw [countOn_snoc_other same] at later
      rw [← later]
      simp only [unserved, rankedAfter, List.filter_cons]
      split <;> simp [onQueue_cons_other same]

theorem onQueue_surplus (queue : UInt32) (pins others : List Endpoint) :
    onQueue queue (surplus pins others) = (onQueue queue pins).drop (countOn queue others) := by
  simpa [surplus] using onQueue_unserved others queue pins []

theorem countOn_surplus (queue : UInt32) (pins others : List Endpoint) :
    countOn queue (surplus pins others) = countOn queue pins - countOn queue others := by
  simp [countOn, onQueue_surplus]

/-- On one queue the linked pairs pair both sides off from the front. -/
private theorem filter_partners (inputs : List Endpoint) (queue : UInt32) :
    ∀ outputs before, (partners inputs (rankedAfter before outputs)).filter (·.1.queueId == queue) =
      (onQueue queue outputs).zip ((onQueue queue inputs).drop (countOn queue before))
  | [], _ => rfl
  | output :: outputs, before => by
    have later := filter_partners inputs queue outputs (before ++ [output])
    by_cases same : output.queueId = queue
    · rw [onQueue_cons_same same]
      rw [countOn_snoc_same same] at later
      cases partner : (onQueue queue inputs)[countOn queue before]? with
      | some input =>
        obtain ⟨inside, rfl⟩ := List.getElem?_eq_some_iff.mp partner
        rw [List.drop_eq_getElem_cons inside, List.zip_cons_cons, ← later]
        simp [partners, rankedAfter, same, partner]
      | none =>
        have exhausted := List.getElem?_eq_none_iff.mp partner
        rw [List.drop_eq_nil_iff.mpr (by omega), List.zip_nil_right] at later
        rw [List.drop_eq_nil_iff.mpr exhausted, List.zip_nil_right, ← later]
        simp [partners, rankedAfter, same, partner]
    · rw [onQueue_cons_other same]
      rw [countOn_snoc_other same] at later
      rw [← later]
      simp only [partners, rankedAfter, List.filterMap_cons]
      cases (onQueue output.queueId inputs)[countOn output.queueId before]? <;> simp [same]

theorem filter_fifo (queue : UInt32) (outputs inputs : List Endpoint) :
    (fifo outputs inputs).filter (·.1.queueId == queue) =
      (onQueue queue outputs).zip (onQueue queue inputs) := by
  simpa [fifo] using filter_partners inputs queue outputs []

/-- A linked pair is made of an output and an input on one queue. -/
theorem of_mem_fifo {outputs inputs : List Endpoint} {pair : Endpoint × Endpoint}
    (linked : pair ∈ fifo outputs inputs) :
    pair.1 ∈ outputs ∧ pair.2 ∈ inputs ∧ pair.1.queueId = pair.2.queueId := by
  have paired : (pair.1, pair.2) ∈ (onQueue pair.1.queueId outputs).zip (onQueue pair.1.queueId inputs) := by
    rw [← filter_fifo]
    exact List.mem_filter.mpr ⟨linked, by simp⟩
  obtain ⟨first, second⟩ := List.of_mem_zip paired
  exact ⟨(mem_onQueue.mp first).1, (mem_onQueue.mp second).1, (mem_onQueue.mp second).2.symm⟩

/-- The number of links on a queue is the lower of the numbers of pins on both sides. -/
theorem countP_fifo (queue : UInt32) (outputs inputs : List Endpoint) :
    (fifo outputs inputs).countP (·.1.queueId == queue) =
      min (countOn queue outputs) (countOn queue inputs) := by
  rw [List.countP_eq_length_filter, filter_fifo, List.length_zip, countOn, countOn]

/-! ## Nothing is lost -/

private theorem zip_fst_append_drop {α β : Type} : ∀ (xs : List α) (ys : List β),
    (xs.zip ys).map Prod.fst ++ xs.drop ys.length = xs
  | [], _ => by simp
  | _ :: _, [] => rfl
  | x :: xs, _ :: ys => by simp [zip_fst_append_drop xs ys]

private theorem zip_snd_append_drop {α β : Type} : ∀ (xs : List α) (ys : List β),
    (xs.zip ys).map Prod.snd ++ ys.drop xs.length = ys
  | [], _ => rfl
  | _ :: _, [] => rfl
  | _ :: xs, y :: ys => by simp [zip_snd_append_drop xs ys]

/-- Every output is in one linked pair or in the surplus. -/
theorem outputs_perm (outputs inputs : List Endpoint) :
    outputs.Perm ((fifo outputs inputs).map Prod.fst ++ surplus outputs inputs) := by
  refine perm_of_onQueue fun queue => ?_
  have first : onQueue queue ((fifo outputs inputs).map Prod.fst) =
      ((fifo outputs inputs).filter (·.1.queueId == queue)).map Prod.fst := List.filter_map
  rw [onQueue_append, onQueue_surplus, first, filter_fifo, countOn, zip_fst_append_drop]

/-- Every input is in one linked pair or in the surplus. -/
theorem inputs_perm (outputs inputs : List Endpoint) :
    inputs.Perm ((fifo outputs inputs).map Prod.snd ++ surplus inputs outputs) := by
  refine perm_of_onQueue fun queue => ?_
  have second : onQueue queue ((fifo outputs inputs).map Prod.snd) =
      ((fifo outputs inputs).filter (·.1.queueId == queue)).map Prod.snd := by
    rw [onQueue, List.filter_map]
    congr 1
    exact List.filter_congr fun pair linked => by simp [(of_mem_fifo linked).2.2]
  rw [onQueue_append, onQueue_surplus, second, filter_fifo, countOn, zip_snd_append_drop]

/-- What is left on both sides shares no queue. -/
theorem queueId_ne_of_mem_surplus {outputs inputs : List Endpoint} {output input : Endpoint}
    (left : output ∈ surplus outputs inputs) (more : input ∈ surplus inputs outputs) :
    output.queueId ≠ input.queueId := by
  intro same
  have someLeft : 0 < countOn output.queueId (surplus outputs inputs) :=
    List.length_pos_of_mem (mem_onQueue.mpr ⟨left, rfl⟩)
  have someOver : 0 < countOn output.queueId (surplus inputs outputs) :=
    List.length_pos_of_mem (mem_onQueue.mpr ⟨more, same.symm⟩)
  rw [countOn_surplus] at someLeft someOver
  omega

end DspInspector.Matching

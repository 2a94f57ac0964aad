import DspInspector.Proofs.Probe.Chunking
import DspInspector.Proofs.Probe.Workers

/-!
# What reaches the queues

Whatever the extraction worker reads, it opens and closes no queue, learns no new probe points, and every
block it queues is a packet that its points lead to that channel (`fills_receive`).
-/

namespace DspInspector

open DspInspector.Action

/-- A block waits in the queue of a channel. -/
def Queued (queues : List BlockQueue) (channel : Nat) (block : List UInt8) : Prop :=
  ∃ queue, queues[channel]? = some queue ∧ block ∈ queue.items

/-- Which blocks wait depends on the items of the queues only. -/
theorem Queued.of_items {before after : List BlockQueue} {channel : Nat} {block : List UInt8}
    (same : after.map (·.items) = before.map (·.items)) (queued : Queued after channel block) :
    Queued before channel block := by
  obtain ⟨queue, found, member⟩ := queued
  have items : (before.map (·.items))[channel]? = some queue.items := by
    rw [← same, List.getElem?_map, found]
    rfl
  rw [List.getElem?_map, Option.map_eq_some_iff] at items
  obtain ⟨other, isOther, equal⟩ := items
  exact ⟨other, isOther, equal ▸ member⟩

theorem Queued.of_set {queues : List BlockQueue} {place channel : Nat} {queue after : BlockQueue}
    {block : List UInt8} (found : queues[place]? = some queue) (fewer : ∀ item ∈ after.items, item ∈ queue.items)
    (queued : Queued (queues.set place after) channel block) : Queued queues channel block := by
  obtain ⟨other, isOther, member⟩ := queued
  by_cases here : place = channel
  · subst here
    obtain ⟨inside, -⟩ := List.getElem?_eq_some_iff.mp found
    rw [List.getElem?_set_self inside] at isOther
    cases isOther
    exact ⟨queue, found, fewer block member⟩
  · rw [List.getElem?_set_ne here] at isOther
    exact ⟨other, isOther, member⟩

/-- A block is a packet for a channel. -/
def Delivers (points : OrderedMap ProbePoint Nat) (channel : Nat) (block : List UInt8) : Prop :=
  ∃ packet : Packet, block = packet.writeCompact ∧ points.find? packet.point = some channel

/-- Nothing but packets for their channels was put into some queues, and none was opened or closed. -/
structure Fills (points : OrderedMap ProbePoint Nat) (before after : List BlockQueue) : Prop where
  gates : Prober.gates after = Prober.gates before
  blocks : ∀ channel block, Queued after channel block →
    Queued before channel block ∨ Delivers points channel block

namespace Fills

variable {points : OrderedMap ProbePoint Nat} {before between after : List BlockQueue}

theorem refl : Fills points before before := ⟨rfl, fun _ _ => .inl⟩

theorem trans (first : Fills points before between) (second : Fills points between after) :
    Fills points before after where
  gates := second.gates.trans first.gates
  blocks channel block queued :=
    (second.blocks channel block queued).elim (first.blocks channel block) .inr

/-- A packet was put into the queue of its channel. -/
theorem append {queues : List BlockQueue} {packet : Packet} {channel : Nat}
    (served : points.find? packet.point = some channel) :
    Fills points queues (queues.modify channel fun queue => queue.append packet.writeCompact) where
  gates := by
    unfold Prober.gates
    refine List.ext_getElem? fun place => ?_
    by_cases here : channel = place
    · subst here
      cases found : queues[channel]? <;> simp [found, BoundedQueue.append]
    · simp [here]
  blocks other block queued := by
    obtain ⟨queue, found, member⟩ := queued
    rw [List.getElem?_modify] at found
    by_cases here : channel = other
    · subst here
      simp only [↓reduceIte, Option.map_eq_map, Option.map_eq_some_iff] at found
      obtain ⟨before, found, rfl⟩ := found
      rcases List.mem_append.mp member with early | late
      · exact .inl ⟨before, found, early⟩
      · exact .inr ⟨packet, List.mem_singleton.mp late, served⟩
    · simp only [here, ↓reduceIte, Option.map_eq_map, Option.map_id_fun'] at found
      exact .inl ⟨queue, found, member⟩

end Fills

namespace Routing

variable {routing : Routing} {packet : Packet} {offer : Offer}

/-- An offer puts its packet into the queue of its channel, or nothing anywhere. -/
theorem fills_settle (offered : offer? packet routing = some offer) :
    (routing.settle offer).router.points = routing.router.points ∧
      Fills routing.router.points routing.queues (routing.settle offer).queues := by
  simp only [offer?, Option.bind_eq_bind, Option.bind_eq_some_iff, Option.pure_def, Option.some.injEq] at offered
  obtain ⟨channel, served, queue, found, rfl⟩ := offered
  unfold settle
  split
  · exact ⟨rfl, .append served⟩
  · exact ⟨rfl, .refl⟩

theorem fills_consume (bytes : List UInt8) (routing : Routing) :
    (consume bytes).Yields routing
      (fun _ after => after.router.points = routing.router.points ∧
        Fills routing.router.points routing.queues after.queues)
      (fun _ after => after.router.points = routing.router.points ∧
        Fills routing.router.points routing.queues after.queues) := by
  induction bytes, routing using packet_induction with
  | refused bytes routing cause next =>
    simp only [Yields, consume_of_error next]
    exact ⟨rfl, .refl⟩
  | incomplete bytes routing next =>
    simp only [Yields, consume_of_incomplete next]
    exact ⟨rfl, .refl⟩
  | stray bytes routing packet rest next lost =>
    simp only [Yields, consume_of_stray next lost]
    exact ⟨rfl, .refl⟩
  | offered bytes routing packet rest offer next made ih =>
    obtain ⟨points, fills⟩ := fills_settle made
    rw [points] at ih
    have onward : ∀ after : Routing, after.router.points = routing.router.points ∧
        Fills routing.router.points (routing.settle offer).queues after.queues →
        after.router.points = routing.router.points ∧
          Fills routing.router.points routing.queues after.queues := by
      intro after rest
      exact ⟨rest.1, fills.trans rest.2⟩
    unfold Yields
    rw [consume_of_offer next made]
    exact ih.mono (fun _ => onward) fun _ => onward

end Routing

/-- Reading once puts nothing but packets for their channels into the queues. -/
theorem Extraction.fills_receive (reading : Reading) (extraction : Extraction) :
    (extraction.receive reading).extractor.router.points = extraction.extractor.router.points ∧
      Fills extraction.extractor.router.points extraction.queues (extraction.receive reading).queues := by
  unfold receive
  split
  · cases reading with
    | ended => exact ⟨rfl, .refl⟩
    | failed cause => exact ⟨rfl, .refl⟩
    | chunk bytes =>
      have fills := Routing.fills_consume (extraction.routing.router.pending ++ bytes) extraction.routing
      cases took : Routing.feed bytes extraction.routing with
      | ok _ after =>
        simp only [took]
        exact fills.of_ok took
      | error cause after =>
        simp only [took]
        exact fills.of_error took
  · exact ⟨rfl, .refl⟩

end DspInspector

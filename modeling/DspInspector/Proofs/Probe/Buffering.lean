import DspInspector.Proofs.Data.Outcomes
import DspInspector.Proofs.Probe.Reassembly
import DspInspector.Proofs.Wire.Verbatim

/-!
# How much a router buffers

A header may announce anything, and the router has to wait for what it announces. It waits only for packets that some
queue could hold: where it waits, the size that stands in front of the waiting bytes has been checked, so that these are
fewer than the bytes of one such packet (`Packet.length_lt_of_incomplete`). Whatever it was fed before, with or without
success, and whatever the clients do to the queues meanwhile, a chunk that is taken leaves no more than that waiting;
no packet is ever taken that is larger; and that bytes are missing is never a failure (`Routing.buffer_bounded`).
-/

namespace DspInspector

namespace Packet

variable {limit : Nat} {bytes middle rest left : List UInt8} {packet : Packet} {packets others : List Packet}

/-- Packets, one behind the other, at the front of some bytes. Each has as much data as its header announces, and that
is not too much. -/
structure Accepted (limit : Nat) (bytes : List UInt8) (packets : List Packet) (left : List UInt8) : Prop where
  split : bytes = packets.flatMap Wire.write ++ left
  small : ∀ packet ∈ packets, announced (Wire.write packet) = packet.data.length ∧ packet.data.length ≤ limit

theorem accepted_nil (limit : Nat) (bytes : List UInt8) : Accepted limit bytes [] bytes where
  split := rfl
  small := nofun

theorem Accepted.append (first : Accepted limit bytes packets middle) (second : Accepted limit middle others left) :
    Accepted limit bytes (packets ++ others) left where
  split := by rw [first.split, second.split, List.flatMap_append, List.append_assoc]
  small := List.forall_mem_append.mpr ⟨first.small, second.small⟩

/-- Bytes that are waited for belong to a packet that is not too large. -/
theorem length_lt_of_incomplete (next : ahead limit bytes = .ok .incomplete) :
    bytes.length < headerSize + limit + checksumSize := by
  rw [ahead_eq] at next
  split_ifs at next with short synced large cut sound
  · omega
  · rw [span] at cut
    omega
  · cases next

/-- A stream that is refused is not refused for what it lacks. -/
theorem ne_endOfStream_of_refused {cause : StreamFault} (next : ahead limit bytes = .error cause) :
    cause ≠ .malformed .endOfStream := by
  rw [ahead_eq] at next
  split_ifs at next <;> cases next <;> nofun

/-- A packet that is found has its bytes at the front, and the size that was checked. -/
theorem accepted_of_ahead (next : ahead limit bytes = .ok (.packet packet rest)) :
    Accepted limit bytes [packet] rest := by
  rw [ahead_eq] at next
  split_ifs at next with short synced large cut sound
  · cases next
  · cases next
  cases next
  have whole : span bytes ≤ bytes.length := Nat.not_lt.mp cut
  have read := read_whole (not_not.mp synced) whole
  rw [if_pos (not_not.mp sound)] at read
  have stood : bytes = Wire.write (front bytes) ++ bytes.drop (span bytes) := (Wire.Verbatim.of_read read).1
  have header : headerSize ≤ (Wire.write (front bytes)).length := by
    rw [length_write]
    omega
  have size : (front bytes).data.length = announced bytes := length_data_front whole
  have told : announced (Wire.write (front bytes)) = announced bytes := by
    rw [← announced_append header (bytes.drop (span bytes)), ← stood]
  refine ⟨by rwa [List.flatMap_singleton], List.forall_mem_singleton.mpr ⟨told.trans size.symm, ?_⟩⟩
  omega

end Packet

namespace Routing

open Packet

variable {bytes : List UInt8} {routing after : Routing}

/-- What routing some bytes comes to, however it ends: packets are taken, and nothing but what was taken is offered. -/
structure Takings (routing : Routing) (bytes : List UInt8) (after : Routing) : Prop where
  limit : after.router.limit = routing.router.limit
  accepted : ∃ packets, Accepted routing.router.limit bytes packets after.router.pending ∧
    (offers bytes routing).map Offer.block <+: packets.map writeCompact

@[simp] theorem limit_settle (routing : Routing) (offer : Offer) :
    (routing.settle offer).router.limit = routing.router.limit := by
  unfold settle
  split <;> rfl

theorem block_of_offer? {packet : Packet} {offer : Offer} (made : offer? packet routing = some offer) :
    offer.block = packet.writeCompact := by
  simp only [offer?, Option.bind_eq_bind, Option.bind_eq_some_iff, Option.pure_def, Option.some.injEq] at made
  obtain ⟨_, _, _, _, rfl⟩ := made
  rfl

/-- A packet that is offered is followed by what is taken behind it. -/
theorem Takings.behind {rest : List UInt8} {packet : Packet} {offer : Offer}
    (next : ahead routing.router.limit bytes = .ok (.packet packet rest)) (made : offer? packet routing = some offer)
    (later : Takings (routing.settle offer) rest after) : Takings routing bytes after := by
  obtain ⟨limit, packets, accepted, offered⟩ := later
  rw [limit_settle] at limit accepted
  refine ⟨limit, packet :: packets, (accepted_of_ahead next).append accepted, ?_⟩
  rw [offers_of_offer next made, List.map_cons, List.map_cons, block_of_offer? made]
  exact (List.prefix_cons_inj _).mpr offered

/-- Routing bytes takes packets that are not too large from their front; if it succeeds, what it leaves is shorter than
one more of them could be, and if it fails, it is not for bytes that are still to come. -/
theorem consume_bounded (bytes : List UInt8) (routing : Routing) : Action.Yields (consume bytes) routing
    (fun _ after => after.router.pending.length < headerSize + routing.router.limit + checksumSize ∧
      Takings routing bytes after)
    (fun cause after => cause ≠ .malformed .endOfStream ∧ Takings routing bytes after) := by
  unfold Action.Yields
  -- Along the packets at the front; behind the last one the router waits, refuses what it finds, or has no queue.
  induction bytes, routing using packet_induction with
  | refused bytes routing cause next =>
    rw [consume_of_error next]
    refine ⟨ne_endOfStream_of_refused next, rfl, [], accepted_nil _ _, ?_⟩
    rw [offers_of_error next]
    exact List.prefix_rfl
  | incomplete bytes routing next =>
    rw [consume_of_incomplete next]
    refine ⟨length_lt_of_incomplete next, rfl, [], accepted_nil _ _, ?_⟩
    rw [offers_of_incomplete next]
    exact List.prefix_rfl
  | stray bytes routing packet rest next lost =>
    rw [consume_of_stray next lost]
    refine ⟨?_, rfl, [packet], accepted_of_ahead next, ?_⟩
    · unfold stray
      split <;> nofun
    · rw [offers_of_stray next lost]
      exact List.nil_prefix
  | offered bytes routing packet rest offer next made ih =>
    rw [consume_of_offer next made]
    cases ran : consume rest (routing.settle offer) with
    | ok _ after =>
      rw [ran, limit_settle] at ih
      exact ⟨ih.1, ih.2.behind next made⟩
    | error cause after =>
      rw [ran] at ih
      exact ⟨ih.1, ih.2.behind next made⟩

/-! ## Chunks, and what happens between them -/

/-- What happens to a router. -/
inductive Event where
  | chunk (bytes : List UInt8)
  /-- Clients take blocks out of the queues, open them or close them. -/
  | clients (change : List BlockQueue → List BlockQueue)

/-- A refused chunk does not keep the next one from being fed. -/
def meet (routing : Routing) : Event → Routing
  | .chunk bytes => ((feed bytes).run routing).2
  | .clients change => { routing with queues := change routing.queues }

/-- The budget of the largest queue. -/
def largestBudget (queues : List BlockQueue) : Nat := ((queues.map BoundedQueue.budget).max?).getD 0

theorem limit_start (points : OrderedMap ProbePoint Nat) (queues : List BlockQueue) (events : List WorkerEvent) :
    (start points queues events).router.limit = largestBudget queues := by
  show (queues.map BoundedQueue.budget).foldl max 0 = _
  unfold largestBudget
  cases queues.map BoundedQueue.budget with
  | nil => rfl
  | cons budget budgets => rw [List.foldl_cons, Nat.zero_max, List.max?_cons', Option.getD_some]

theorem limit_meet (routing : Routing) (event : Event) : (routing.meet event).router.limit = routing.router.limit := by
  cases event with
  | clients change => rfl
  | chunk bytes =>
    have kept : Action.Yields (feed bytes) routing (fun _ after => after.router.limit = routing.router.limit)
        fun _ after => after.router.limit = routing.router.limit :=
      (consume_bounded _ routing).mono (fun _ _ taken => taken.2.limit) fun _ _ taken => taken.2.limit
    exact kept.run

theorem limit_foldl_meet (events : List Event) : ∀ routing : Routing,
    (events.foldl meet routing).router.limit = routing.router.limit := by
  induction events with
  | nil => exact fun _ => rfl
  | cons event events ih =>
    intro routing
    rw [List.foldl_cons, ih, limit_meet]

/-- Whatever a router has met, a chunk that it takes leaves fewer bytes waiting than the largest packet that is accepted
has; no chunk is refused because bytes are missing; and in both cases it has taken whole packets only, none with
more data than the largest queue could hold, and offered nothing else to the queues. -/
theorem buffer_bounded (points : OrderedMap ProbePoint Nat) (queues : List BlockQueue) (told : List WorkerEvent)
    (events : List Event) (chunk : List UInt8) :
    let routing := events.foldl meet (start points queues told)
    let stream := routing.router.pending ++ chunk
    routing.router.limit = largestBudget queues ∧
      Action.Yields (feed chunk) routing
        (fun _ after => after.router.pending.length < 24 + largestBudget queues + 8 ∧ Takings routing stream after)
        (fun cause after => cause ≠ .malformed .endOfStream ∧ Takings routing stream after) := by
  intro routing stream
  have limit : routing.router.limit = largestBudget queues :=
    (limit_foldl_meet events _).trans (limit_start points queues told)
  have bounded := consume_bounded stream routing
  refine ⟨limit, bounded.mono (fun _ after left => ⟨?_, left.2⟩) fun cause after left => left⟩
  rw [← limit]
  exact left.1

end Routing

end DspInspector

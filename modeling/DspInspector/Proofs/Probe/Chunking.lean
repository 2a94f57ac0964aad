import DspInspector.Proofs.Probe.PacketLayout

/-!
# How a stream is cut does not matter

The router is fed the extraction stream in chunks. Whatever the cuts, it makes the same offers to the
same queues in the same order and stops with the same verdict as if it had been fed the whole stream at
once (`feedAll_alike`). The invariant between two chunks is that the waiting bytes are the beginning of
a packet that is not complete (`Settled`); routing a stream is then routing its first part and going on
with what that leaves (`consume_append`).
-/

namespace DspInspector

/-- A block offered to the queue of a channel, and whether the queue took it. -/
structure Offer where
  channel : Nat
  block : List UInt8
  taken : Bool
  deriving DecidableEq

namespace Routing

/-- A router that has seen nothing, with its queues and the events so far. -/
def start (points : OrderedMap ProbePoint Nat) (queues : List BlockQueue) (events : List WorkerEvent) :
    Routing :=
  ⟨Router.start points queues, queues, events⟩

/-- Feeds chunks in order, up to the first that is refused. -/
def feedAll : List (List UInt8) → Action StreamFault Routing Unit
  | [] => pure ()
  | chunk :: chunks => do
    feed chunk
    feedAll chunks

/-- The verdict on chunks and the routing after them. -/
def fed (chunks : List (List UInt8)) (routing : Routing) : Except StreamFault Unit × Routing :=
  Action.run (feedAll chunks) routing

/-- The offer by which a packet is routed, if it has a queue. -/
def offer? (packet : Packet) (routing : Routing) : Option Offer := do
  let channel ← routing.router.points.find? packet.point
  let queue ← routing.queues[channel]?
  pure ⟨channel, packet.writeCompact, (queue.tryPush packet.writeCompact).1⟩

/-- The routing after an offer: the block is queued, or counted and reported as lost. -/
def settle (routing : Routing) (offer : Offer) : Routing :=
  if offer.taken then
    { routing with
      router := { routing.router with routed := routing.router.routed + 1 }
      queues := routing.queues.modify offer.channel fun queue => queue.append offer.block }
  else
    { routing with
      router := { routing.router with dropped := routing.router.dropped + 1 }
      events := routing.events ++ [.packetDropped offer.channel] }

/-- The fault of a packet without a queue. -/
def stray (packet : Packet) (routing : Routing) : StreamFault :=
  match routing.router.points.find? packet.point with
  | none => .unknownPoint packet.point
  | some channel => .unknownChannel channel

/-- Routing a packet is making its offer. -/
theorem route_eq (packet : Packet) (routing : Routing) :
    route packet routing =
      match offer? packet routing with
      | some offer => .ok () (routing.settle offer)
      | none => .error (routing.stray packet) routing := by
  unfold route offer? stray
  cases routing.router.points.find? packet.point with
  | none => rfl
  | some channel =>
    dsimp only [Option.bind_eq_bind, Option.bind_some]
    cases found : routing.queues[channel]? with
    | none => rfl
    | some queue =>
      dsimp only [Option.bind_some, Option.pure_def]
      by_cases room : queue.isOpen && queue.fits packet.writeCompact
      · have queued : routing.queues.set channel (queue.append packet.writeCompact) =
            routing.queues.modify channel fun queue => queue.append packet.writeCompact := by
          obtain ⟨inside, rfl⟩ := List.getElem?_eq_some_iff.mp found
          refine List.ext_getElem? fun place => ?_
          by_cases here : channel = place
          · subst here
            simp [inside]
          · simp [here]
        simp [BoundedQueue.tryPush, settle, room, queued]
      · simp [BoundedQueue.tryPush, settle, room]

/-- The offers made while the packets at the start of some bytes are routed. -/
def offers (bytes : List UInt8) (routing : Routing) : List Offer :=
  match _ : Packet.ahead routing.router.limit bytes with
  | .ok (.packet packet rest) =>
    match offer? packet routing with
    | some offer => offer :: offers rest (routing.settle offer)
    | none => []
  | _ => []
termination_by bytes.length
decreasing_by exact Packet.length_of_ahead ‹_›

/-- The offers made while chunks are fed. -/
def offersAll : List (List UInt8) → Routing → List Offer
  | [], _ => []
  | chunk :: chunks, routing =>
    offers (routing.router.pending ++ chunk) routing ++
      match feed chunk routing with
      | .ok _ after => offersAll chunks after
      | .error _ _ => []

/-- No packet waits: the waiting bytes do not even decide what they begin with. -/
def Settled (routing : Routing) : Prop :=
  Packet.ahead routing.router.limit routing.router.pending = .ok .incomplete

variable {bytes rest : List UInt8} {routing : Routing} {packet : Packet}

/-! ## One packet at a time -/

theorem consume_of_error {cause : StreamFault}
    (next : Packet.ahead routing.router.limit bytes = .error cause) :
    consume bytes routing = .error cause (routing.keep bytes) := by
  rw [consume]
  split <;> simp_all

theorem consume_of_incomplete (next : Packet.ahead routing.router.limit bytes = .ok .incomplete) :
    consume bytes routing = .ok () (routing.keep bytes) := by
  rw [consume]
  split <;> simp_all

theorem consume_of_offer {offer : Offer}
    (next : Packet.ahead routing.router.limit bytes = .ok (.packet packet rest))
    (offered : offer? packet routing = some offer) :
    consume bytes routing = consume rest (routing.settle offer) := by
  rw [consume]
  split <;> simp_all [route_eq]

theorem consume_of_stray (next : Packet.ahead routing.router.limit bytes = .ok (.packet packet rest))
    (lost : offer? packet routing = none) :
    consume bytes routing = .error (routing.stray packet) (routing.keep rest) := by
  rw [consume]
  split <;> simp_all [route_eq]

theorem offers_of_offer {offer : Offer}
    (next : Packet.ahead routing.router.limit bytes = .ok (.packet packet rest))
    (offered : offer? packet routing = some offer) :
    offers bytes routing = offer :: offers rest (routing.settle offer) := by
  rw [offers]
  split <;> simp_all

theorem offers_of_stray (next : Packet.ahead routing.router.limit bytes = .ok (.packet packet rest))
    (lost : offer? packet routing = none) : offers bytes routing = [] := by
  rw [offers]
  split <;> simp_all

theorem offers_of_error {cause : StreamFault}
    (next : Packet.ahead routing.router.limit bytes = .error cause) : offers bytes routing = [] := by
  rw [offers]
  split <;> simp_all

theorem offers_of_incomplete (next : Packet.ahead routing.router.limit bytes = .ok .incomplete) :
    offers bytes routing = [] := by
  rw [offers]
  split <;> simp_all

/-! ## Waiting bytes do not matter to routing -/

@[simp] theorem keep_keep (bytes others : List UInt8) (routing : Routing) :
    (routing.keep bytes).keep others = routing.keep others := rfl

theorem settle_keep (bytes : List UInt8) (routing : Routing) (offer : Offer) :
    (routing.keep bytes).settle offer = (routing.settle offer).keep bytes := by
  unfold settle
  split <;> rfl

theorem foldl_settle_keep (bytes : List UInt8) (offers : List Offer) : ∀ routing : Routing,
    offers.foldl settle (routing.keep bytes) = (offers.foldl settle routing).keep bytes := by
  induction offers with
  | nil => exact fun _ => rfl
  | cons offer offers ih =>
    intro routing
    rw [List.foldl_cons, List.foldl_cons, settle_keep, ih]

/-- Induction along the packets at the start of some bytes. -/
theorem packet_induction {motive : List UInt8 → Routing → Prop}
    (refused : ∀ bytes routing cause, Packet.ahead routing.router.limit bytes = .error cause →
      motive bytes routing)
    (incomplete : ∀ bytes routing, Packet.ahead routing.router.limit bytes = .ok .incomplete →
      motive bytes routing)
    (stray : ∀ bytes routing packet rest,
      Packet.ahead routing.router.limit bytes = .ok (.packet packet rest) →
      offer? packet routing = none → motive bytes routing)
    (offered : ∀ bytes routing packet rest offer,
      Packet.ahead routing.router.limit bytes = .ok (.packet packet rest) →
      offer? packet routing = some offer → motive rest (routing.settle offer) → motive bytes routing)
    (bytes : List UInt8) (routing : Routing) : motive bytes routing :=
  match next : Packet.ahead routing.router.limit bytes with
  | .error cause => refused bytes routing cause next
  | .ok .incomplete => incomplete bytes routing next
  | .ok (.packet packet rest) =>
    match offer : offer? packet routing with
    | none => stray bytes routing packet rest next offer
    | some made => offered bytes routing packet rest made next offer <|
        packet_induction refused incomplete stray offered rest (routing.settle made)
termination_by bytes.length
decreasing_by exact Packet.length_of_ahead next

theorem consume_keep (others bytes : List UInt8) (routing : Routing) :
    consume bytes (routing.keep others) = consume bytes routing ∧
      offers bytes (routing.keep others) = offers bytes routing := by
  induction bytes, routing using packet_induction with
  | refused bytes routing cause next =>
    have kept : Packet.ahead (routing.keep others).router.limit bytes = .error cause := next
    rw [consume_of_error next, consume_of_error kept, offers_of_error next, offers_of_error kept]
    exact ⟨rfl, rfl⟩
  | incomplete bytes routing next =>
    have kept : Packet.ahead (routing.keep others).router.limit bytes = .ok .incomplete := next
    rw [consume_of_incomplete next, consume_of_incomplete kept, offers_of_incomplete next,
      offers_of_incomplete kept]
    exact ⟨rfl, rfl⟩
  | stray bytes routing packet rest next lost =>
    have kept : Packet.ahead (routing.keep others).router.limit bytes = .ok (.packet packet rest) := next
    rw [consume_of_stray next lost, consume_of_stray kept lost, offers_of_stray next lost,
      offers_of_stray kept lost]
    exact ⟨rfl, rfl⟩
  | offered bytes routing packet rest offer next made ih =>
    have kept : Packet.ahead (routing.keep others).router.limit bytes = .ok (.packet packet rest) := next
    rw [consume_of_offer next made, consume_of_offer kept made, offers_of_offer next made,
      offers_of_offer kept made, settle_keep, ih.1, ih.2]
    exact ⟨rfl, rfl⟩

/-! ## Routing a stream in two parts -/

/-- Where the first part is routed without a fault, routing both parts is going on with what it leaves. -/
theorem consume_append {after : Routing} (done : consume bytes routing = .ok () after)
    (more : List UInt8) :
    consume (bytes ++ more) routing = consume (after.router.pending ++ more) after ∧
      offers (bytes ++ more) routing =
        offers bytes routing ++ offers (after.router.pending ++ more) after := by
  induction bytes, routing using packet_induction with
  | refused bytes routing cause next =>
    rw [consume_of_error next] at done
    cases done
  | incomplete bytes routing next =>
    rw [consume_of_incomplete next] at done
    cases done
    obtain ⟨same, offered⟩ := consume_keep bytes (bytes ++ more) routing
    rw [offers_of_incomplete next]
    exact ⟨same.symm, offered.symm⟩
  | stray bytes routing packet rest next lost =>
    rw [consume_of_stray next lost] at done
    cases done
  | offered bytes routing packet rest offer next made ih =>
    rw [consume_of_offer next made] at done
    obtain ⟨goesOn, offered⟩ := ih done
    have longer := Packet.ahead_append_packet next more
    rw [consume_of_offer longer made, offers_of_offer longer made, offers_of_offer next made]
    exact ⟨goesOn, by rw [offered, List.cons_append]⟩

/-- Where the first part is routed without a fault, no packet waits. -/
theorem settled_of_consume {after : Routing} (done : consume bytes routing = .ok () after) :
    Settled after := by
  induction bytes, routing using packet_induction with
  | refused bytes routing cause next =>
    rw [consume_of_error next] at done
    cases done
  | incomplete bytes routing next =>
    rw [consume_of_incomplete next] at done
    cases done
    exact next
  | stray bytes routing packet rest next lost =>
    rw [consume_of_stray next lost] at done
    cases done
  | offered bytes routing packet rest offer next made ih =>
    rw [consume_of_offer next made] at done
    exact ih done

/-- A fault in the first part is the fault of both. -/
theorem consume_append_of_error {cause : StreamFault} {after : Routing}
    (fault : consume bytes routing = .error cause after) (more : List UInt8) :
    consume (bytes ++ more) routing = .error cause (after.keep (after.router.pending ++ more)) ∧
      offers (bytes ++ more) routing = offers bytes routing := by
  induction bytes, routing using packet_induction with
  | refused bytes routing other next =>
    rw [consume_of_error next] at fault
    cases fault
    have longer := Packet.ahead_append_error next more
    rw [consume_of_error longer, offers_of_error longer, offers_of_error next]
    exact ⟨rfl, rfl⟩
  | incomplete bytes routing next =>
    rw [consume_of_incomplete next] at fault
    cases fault
  | stray bytes routing packet rest next lost =>
    rw [consume_of_stray next lost] at fault
    cases fault
    have longer := Packet.ahead_append_packet next more
    rw [consume_of_stray longer lost, offers_of_stray longer lost, offers_of_stray next lost]
    exact ⟨rfl, rfl⟩
  | offered bytes routing packet rest offer next made ih =>
    rw [consume_of_offer next made] at fault
    obtain ⟨same, offered⟩ := ih fault
    have longer := Packet.ahead_append_packet next more
    rw [consume_of_offer longer made, offers_of_offer longer made, offers_of_offer next made]
    exact ⟨same, by rw [offered]⟩

/-- Routing some bytes settles their offers, and touches nothing else but the waiting bytes. -/
theorem consume_settles (bytes : List UInt8) (routing : Routing) : ∃ left,
    (Action.run (consume bytes) routing).2 = ((offers bytes routing).foldl settle routing).keep left := by
  induction bytes, routing using packet_induction with
  | refused bytes routing cause next =>
    refine ⟨bytes, ?_⟩
    rw [Action.run, consume_of_error next, offers_of_error next]
    rfl
  | incomplete bytes routing next =>
    refine ⟨bytes, ?_⟩
    rw [Action.run, consume_of_incomplete next, offers_of_incomplete next]
    rfl
  | stray bytes routing packet rest next lost =>
    refine ⟨rest, ?_⟩
    rw [Action.run, consume_of_stray next lost, offers_of_stray next lost]
    rfl
  | offered bytes routing packet rest offer next made ih =>
    rw [Action.run, consume_of_offer next made, offers_of_offer next made, List.foldl_cons]
    exact ih

/-! ## Feeding chunks -/

variable {chunk : List UInt8} {after : Routing}

theorem settled_start (points : OrderedMap ProbePoint Nat) (queues : List BlockQueue)
    (events : List WorkerEvent) : Settled (start points queues events) := rfl

theorem feedAll_cons_of_ok (took : feed chunk routing = .ok () after) (chunks : List (List UInt8)) :
    feedAll (chunk :: chunks) routing = feedAll chunks after ∧
      offersAll (chunk :: chunks) routing =
        offers (routing.router.pending ++ chunk) routing ++ offersAll chunks after := by
  constructor
  · change EStateM.bind (feed chunk) (fun _ => feedAll chunks) routing = _
    rw [EStateM.bind, took]
  · rw [offersAll, took]

theorem feedAll_cons_of_error {cause : StreamFault} (refused : feed chunk routing = .error cause after)
    (chunks : List (List UInt8)) :
    feedAll (chunk :: chunks) routing = .error cause after ∧
      offersAll (chunk :: chunks) routing = offers (routing.router.pending ++ chunk) routing := by
  constructor
  · change EStateM.bind (feed chunk) (fun _ => feedAll chunks) routing = _
    rw [EStateM.bind, refused]
  · rw [offersAll, refused, List.append_nil]

/-- Between two chunks no packet waits. -/
theorem settled_of_feed (took : feed chunk routing = .ok () after) : Settled after :=
  settled_of_consume took

/-- Feeding chunks is routing what they make together with the waiting bytes; only what a refused stream
leaves waiting depends on the cuts. -/
theorem feedAll_eq (chunks : List (List UInt8)) : ∀ {routing : Routing}, Settled routing →
    offersAll chunks routing = offers (routing.router.pending ++ chunks.flatten) routing ∧
    match consume (routing.router.pending ++ chunks.flatten) routing with
    | .ok _ after => feedAll chunks routing = .ok () after
    | .error cause after => ∃ left, feedAll chunks routing = .error cause (after.keep left) := by
  induction chunks with
  | nil =>
    intro routing settled
    rw [List.flatten_nil, List.append_nil, consume_of_incomplete settled, offers_of_incomplete settled]
    exact ⟨rfl, rfl⟩
  | cons chunk chunks ih =>
    intro routing settled
    rw [List.flatten_cons, ← List.append_assoc]
    cases took : feed chunk routing with
    | ok _ after =>
      obtain ⟨rest, made⟩ := feedAll_cons_of_ok took chunks
      obtain ⟨goesOn, offered⟩ := consume_append took chunks.flatten
      obtain ⟨same, verdict⟩ := ih (settled_of_feed took)
      rw [rest, made, goesOn, offered, same]
      exact ⟨rfl, verdict⟩
    | error cause after =>
      obtain ⟨rest, made⟩ := feedAll_cons_of_error took chunks
      obtain ⟨stops, offered⟩ := consume_append_of_error took chunks.flatten
      rw [rest, made, stops, offered]
      exact ⟨rfl, after.router.pending, rfl⟩

/-- Feeding chunks settles their offers, and touches nothing else but the waiting bytes. -/
theorem fed_settles (chunks : List (List UInt8)) : ∀ routing : Routing, ∃ left,
    (fed chunks routing).2 = ((offersAll chunks routing).foldl settle routing).keep left := by
  induction chunks with
  | nil => exact fun routing => ⟨routing.router.pending, rfl⟩
  | cons chunk chunks ih =>
    intro routing
    obtain ⟨left, first⟩ := consume_settles (routing.router.pending ++ chunk) routing
    change (Action.run (feed chunk) routing).2 = _ at first
    cases took : feed chunk routing with
    | ok _ after =>
      obtain ⟨rest, made⟩ := feedAll_cons_of_ok took chunks
      obtain ⟨last, second⟩ := ih after
      have reached : after =
          ((offers (routing.router.pending ++ chunk) routing).foldl settle routing).keep left := by
        rwa [Action.run, took] at first
      have onward : (offersAll chunks after).foldl settle after = ((offersAll chunks after).foldl settle
          ((offers (routing.router.pending ++ chunk) routing).foldl settle routing)).keep left := by
        rw [← foldl_settle_keep, ← reached]
      refine ⟨last, ?_⟩
      rw [fed, Action.run, rest, made, List.foldl_append, ← keep_keep left last, ← onward]
      exact second
    | error cause after =>
      obtain ⟨rest, made⟩ := feedAll_cons_of_error took chunks
      refine ⟨left, ?_⟩
      rw [Action.run, took] at first
      rw [fed, Action.run, rest, made]
      exact first

/-- Two ways of cutting a stream come to the same: the blocks, the queues they are offered to, the order
and the verdict. Only what a refused stream leaves waiting may differ. -/
structure Alike (chunks chunks' : List (List UInt8)) (fresh : Routing) : Prop where
  offers : offersAll chunks fresh = offersAll chunks' fresh
  /-- The offers are all that happens to the queues, the counts and the events. -/
  replayed : ∃ left, (fed chunks fresh).2 = ((offersAll chunks fresh).foldl settle fresh).keep left
  verdict : (fed chunks fresh).1 = (fed chunks' fresh).1
  queues : (fed chunks fresh).2.queues = (fed chunks' fresh).2.queues
  routed : (fed chunks fresh).2.router.routed = (fed chunks' fresh).2.router.routed
  dropped : (fed chunks fresh).2.router.dropped = (fed chunks' fresh).2.router.dropped
  events : (fed chunks fresh).2.events = (fed chunks' fresh).2.events
  pending : (fed chunks fresh).1 = .ok () →
    (fed chunks fresh).2.router.pending = (fed chunks' fresh).2.router.pending

/-- How a stream is cut does not matter to a router that has seen nothing. -/
theorem feedAll_alike (points : OrderedMap ProbePoint Nat) (queues : List BlockQueue)
    (events : List WorkerEvent) {chunks chunks' : List (List UInt8)}
    (same : chunks.flatten = chunks'.flatten) : Alike chunks chunks' (start points queues events) := by
  obtain ⟨made, verdict⟩ := feedAll_eq chunks (settled_start points queues events)
  obtain ⟨made', verdict'⟩ := feedAll_eq chunks' (settled_start points queues events)
  rw [← same] at made' verdict'
  generalize fresh : start points queues events = routing at *
  have offers := made.trans made'.symm
  have replayed := fed_settles chunks routing
  cases whole : consume (routing.router.pending ++ chunks.flatten) routing with
  | ok _ after =>
    rw [whole] at verdict verdict'
    have one : fed chunks routing = (.ok (), after) := by rw [fed, Action.run, verdict]
    have other : fed chunks' routing = (.ok (), after) := by rw [fed, Action.run, verdict']
    refine ⟨offers, replayed, ?_, ?_, ?_, ?_, ?_, ?_⟩ <;> simp [one, other]
  | error cause after =>
    rw [whole] at verdict verdict'
    obtain ⟨left, refused⟩ := verdict
    obtain ⟨left', refused'⟩ := verdict'
    have one : fed chunks routing = (.error cause, after.keep left) := by rw [fed, Action.run, refused]
    have other : fed chunks' routing = (.error cause, after.keep left') := by
      rw [fed, Action.run, refused']
    refine ⟨offers, replayed, ?_, ?_, ?_, ?_, ?_, ?_⟩ <;> simp [one, other, keep]

/-- A packet of a probe point with two bytes of data. -/
def samplePacket : Packet := ⟨⟨7⟩, 0, 0, 1, [5, 6]⟩

/-- The packet twice. -/
def sampleStream : List UInt8 := Wire.write samplePacket ++ Wire.write samplePacket

/-- A router of that probe point, with an open queue that has room for one packet. -/
def sampleRouting : Routing := start (.ofList [(⟨7⟩, 0)]) [(BlockQueue.ofBudget 40).opened] []

theorem sample_alike :
    [sampleStream].flatten = [sampleStream.take 30, [], sampleStream.drop 30].flatten ∧
      Alike [sampleStream] [sampleStream.take 30, [], sampleStream.drop 30] sampleRouting := by
  have same : [sampleStream].flatten = [sampleStream.take 30, [], sampleStream.drop 30].flatten := by
    simp
  exact ⟨same, feedAll_alike _ _ _ same⟩

/-- The second packet finds no room. -/
example : offersAll [sampleStream.take 30, [], sampleStream.drop 30] sampleRouting =
    [⟨0, samplePacket.writeCompact, true⟩, ⟨0, samplePacket.writeCompact, false⟩] := by
  cbv

end Routing

end DspInspector

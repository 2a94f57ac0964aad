import DspInspector.Proofs.Probe.Chunking
import DspInspector.Proofs.Probe.QueueHistory
import DspInspector.Proofs.Wire.RoundTrip
import DspInspector.Proofs.Wire.Sizes
import Mathlib.Logic.Function.Basic

/-!
# Packets arrive as they were sent

A stream of packets for known channels, cut anywhere, is put together again packet by packet (`ahead_write`,
`ahead_cut`). Which of the packets are kept is a matter of room only: `due` says it from the numbers of free bytes,
and that is what the router does (`delivered_in_order`). What a client reads of a packet that was kept is the packet.
-/

namespace DspInspector

open Wire

namespace Packet

variable {packet : Packet} {limit : Nat}

/-! ## The bytes of a packet -/

/-- The length of the form that clients are given. -/
def compactSize (packet : Packet) : Nat := 28 + packet.data.length

/-- The words in front of the counted data. -/
def words (packet : Packet) : List UInt8 :=
  Wire.write (syncWord, packet.point, packet.format, packet.clockHigh, packet.clockLow)

theorem length_words (packet : Packet) : packet.words.length = 20 := rfl

theorem writeBody_eq (packet : Packet) : packet.writeBody = packet.words ++ Wire.write packet.data := by
  show Wire.write syncWord ++ (Wire.write packet.point ++ (Wire.write packet.format ++
      (Wire.write packet.clockHigh ++ (Wire.write packet.clockLow ++ Wire.write packet.data)))) =
    (Wire.write syncWord ++ (Wire.write packet.point ++ (Wire.write packet.format ++
      (Wire.write packet.clockHigh ++ Wire.write packet.clockLow)))) ++ Wire.write packet.data
  simp only [List.append_assoc]

theorem length_writeBody (packet : Packet) : packet.writeBody.length = headerSize + packet.data.length := by
  have data : (Wire.write packet.data).length = 4 + packet.data.length * 1 := length_write_list rfl packet.data
  rw [writeBody_eq, List.length_append, length_words, data, headerSize]
  omega

theorem length_writeCompact (packet : Packet) : packet.writeCompact.length = packet.compactSize := by
  have sum : (Wire.write packet.checksum.toUInt32).length = 4 := length_littleEndian 4 _
  rw [writeCompact, List.length_append, length_writeBody, sum, headerSize, compactSize]
  omega

theorem length_write (packet : Packet) :
    (Wire.write packet).length = headerSize + packet.data.length + checksumSize := by
  have sum : (Wire.write packet.checksum).length = checksumSize := length_littleEndian 8 _
  show (packet.writeBody ++ Wire.write packet.checksum).length = _
  rw [List.length_append, length_writeBody, sum]

theorem write_append (packet : Packet) (rest : List UInt8) : Wire.write packet ++ rest =
    packet.words ++ (littleEndian 4 packet.data.length ++
      (packet.data.flatMap Wire.write ++ (Wire.write packet.checksum ++ rest))) := by
  show (packet.writeBody ++ Wire.write packet.checksum) ++ rest = _
  have counted : Wire.write packet.data = littleEndian 4 packet.data.length ++ packet.data.flatMap Wire.write := rfl
  simp only [writeBody_eq, counted, List.append_assoc]

theorem wordAt_write (packet : Packet) (rest : List UInt8) : wordAt 0 (Wire.write packet ++ rest) = syncWord := by
  obtain ⟨more, synced⟩ : ∃ more, packet.words = Wire.write syncWord ++ more := ⟨_, rfl⟩
  rw [write_append, synced, List.append_assoc, wordAt_front]

theorem announced_write (canonical : packet.Canonical) (rest : List UInt8) :
    announced (Wire.write packet ++ rest) = packet.data.length := by
  have count : littleEndian 4 packet.data.length = Wire.write (UInt32.ofNat packet.data.length) := by
    show _ = littleEndian 4 (UInt32.ofNat packet.data.length).toNat
    rw [UInt32.toNat_ofNat_of_lt' canonical]
  rw [announced, write_append, ← length_words packet, count, wordAt_behind, UInt32.toNat_ofNat_of_lt' canonical]

/-! ## What a stream of packets begins with -/

/-- A packet that is not too large is found at the front of a stream. -/
theorem ahead_write (canonical : packet.Canonical) (small : packet.data.length ≤ limit) (rest : List UInt8) :
    ahead limit (Wire.write packet ++ rest) = .ok (.packet packet rest) := by
  have length : (Wire.write packet ++ rest).length = headerSize + packet.data.length + checksumSize + rest.length := by
    rw [List.length_append, length_write]
  have header : headerSize ≤ (Wire.write packet ++ rest).length := by omega
  have count : peekDataSize ((Wire.write packet ++ rest).take headerSize) = .ok packet.data.length := by
    rw [peekDataSize_eq header, if_pos (wordAt_write packet rest), announced_write canonical]
  unfold ahead
  rw [if_neg (Nat.not_lt.mpr header), count]
  dsimp only
  rw [if_neg (Nat.not_lt.mpr small), if_neg (by omega), Packet.echoed canonical rest]

/-- The beginning of a packet decides nothing. -/
theorem ahead_cut {tail missing : List UInt8} (canonical : packet.Canonical) (small : packet.data.length ≤ limit)
    (cut : tail ++ missing = Wire.write packet) (short : missing ≠ []) : ahead limit tail = .ok .incomplete := by
  have whole : ahead limit (tail ++ missing) = .ok (.packet packet []) := by
    rw [cut, ← ahead_write canonical small [], List.append_nil]
  -- Whatever else it began with, it would go on to begin with when the rest is there.
  cases begins : ahead limit tail with
  | error cause =>
    rw [ahead_append_error begins] at whole
    cases whole
  | ok found =>
    cases found with
    | incomplete => rfl
    | packet other rest =>
      rw [ahead_append_packet begins, Except.ok.injEq, Ahead.packet.injEq, List.append_eq_nil_iff] at whole
      exact absurd whole.2.2 short

/-- A client reads the packet and the low four bytes of its sum. -/
theorem read_writeCompact (canonical : packet.Canonical) :
    (Wire.read : Decoder (UInt32 × ProbePoint × UInt32 × UInt32 × UInt32 × List UInt8 × UInt32)) packet.writeCompact =
      .ok (syncWord, packet.point, packet.format, packet.clockHigh, packet.clockLow, packet.data,
        packet.checksum.toUInt32) [] := by
  have fields : Echoed (syncWord, packet.point, packet.format, packet.clockHigh, packet.clockLow, packet.data,
      packet.checksum.toUInt32) := by
    iterate 5 refine echoed_pair (Faithful.echoed _) ?_
    exact echoed_pair (echoed_list_of_faithful canonical) (Faithful.echoed _)
  have written : packet.writeCompact = Wire.write (syncWord, packet.point, packet.format, packet.clockHigh,
      packet.clockLow, packet.data, packet.checksum.toUInt32) ++ [] := by
    rw [List.append_nil]
    show (Wire.write syncWord ++ (Wire.write packet.point ++ (Wire.write packet.format ++
        (Wire.write packet.clockHigh ++ (Wire.write packet.clockLow ++ Wire.write packet.data))))) ++
          Wire.write packet.checksum.toUInt32 =
      Wire.write syncWord ++ (Wire.write packet.point ++ (Wire.write packet.format ++ (Wire.write packet.clockHigh ++
        (Wire.write packet.clockLow ++ (Wire.write packet.data ++ Wire.write packet.checksum.toUInt32)))))
    simp only [List.append_assoc]
  rw [written]
  exact fields []

end Packet

namespace Routing

/-! ## What is due -/

/-- The bytes that are free in the queue of a channel. -/
def room (queues : List BlockQueue) (channel : Nat) : Nat :=
  match queues[channel]? with
  | some queue => queue.budget - (queue.items.map List.length).sum
  | none => 0

/-- The blocks in the queue of a channel. -/
def held (queues : List BlockQueue) (channel : Nat) : Option (List (List UInt8)) :=
  (queues[channel]?).map BoundedQueue.items

/-- The channel that a packet is for. -/
def channelOf (points : OrderedMap ProbePoint Nat) (packet : Packet) : Nat := (points.find? packet.point).getD 0

/-- The offer that is due for a packet: its compact form is taken if that fits into what is free. -/
def offerDue (points : OrderedMap ProbePoint Nat) (room : Nat → Nat) (packet : Packet) : Offer where
  channel := channelOf points packet
  block := packet.writeCompact
  taken := packet.compactSize ≤ room (channelOf points packet)

/-- What an offer leaves free. -/
def roomAfter (room : Nat → Nat) (offer : Offer) : Nat → Nat :=
  if offer.taken then Function.update room offer.channel (room offer.channel - offer.block.length) else room

/-- The offers that are due for packets, one after the other. -/
def due (points : OrderedMap ProbePoint Nat) : (Nat → Nat) → List Packet → List Offer
  | _, [] => []
  | room, packet :: packets =>
    offerDue points room packet :: due points (roomAfter room (offerDue points room packet)) packets

/-- The blocks that a channel is given. -/
def kept (channel : Nat) (offers : List Offer) : List (List UInt8) :=
  (offers.filter fun offer => offer.taken && offer.channel == channel).map Offer.block

theorem length_due (points : OrderedMap ProbePoint Nat) (packets : List Packet) :
    ∀ room : Nat → Nat, (due points room packets).length = packets.length := by
  induction packets with
  | nil => exact fun _ => rfl
  | cons packet packets ih =>
    intro room
    rw [due, List.length_cons, List.length_cons, ih]

/-- A packet is taken or not. -/
theorem countP_due (points : OrderedMap ProbePoint Nat) (room : Nat → Nat) (packets : List Packet) :
    (due points room packets).countP Offer.taken + (due points room packets).countP (!·.taken) = packets.length := by
  rw [← length_due points packets room, List.length_eq_countP_add_countP Offer.taken]
  simp only [Bool.not_eq_true, Bool.decide_eq_false]

theorem mem_due {points : OrderedMap ProbePoint Nat} {packets : List Packet} {offer : Offer} :
    ∀ {room : Nat → Nat}, offer ∈ due points room packets →
      ∃ packet ∈ packets, offer.channel = channelOf points packet ∧ offer.block = packet.writeCompact := by
  induction packets with
  | nil => exact fun made => nomatch made
  | cons packet packets ih =>
    intro room made
    rw [due, List.mem_cons] at made
    rcases made with rfl | later
    · exact ⟨packet, List.mem_cons_self, rfl, rfl⟩
    · obtain ⟨other, sent, same⟩ := ih later
      exact ⟨other, List.mem_cons_of_mem _ sent, same⟩

/-! ## What offers add up to -/

/-- What is left of a routing after some offers. -/
structure AddsUp (routing : Routing) (offers : List Offer) (after : Routing) : Prop where
  queued (channel : Nat) : held after.queues channel = (held routing.queues channel).map (· ++ kept channel offers)
  routed : after.router.routed = routing.router.routed + offers.countP Offer.taken
  dropped : after.router.dropped = routing.router.dropped + offers.countP (!·.taken)
  told : after.events = routing.events ++ (offers.filter (!·.taken)).map (.packetDropped ·.channel)

theorem held_append (queues : List BlockQueue) (target channel : Nat) (block : List UInt8) :
    held (queues.modify target fun queue => queue.append block) channel =
      if target = channel then (held queues channel).map (· ++ [block]) else held queues channel := by
  unfold held
  rw [List.getElem?_modify]
  split <;> cases queues[channel]? <;> rfl

theorem addsUp_settle (routing : Routing) (offer : Offer) : AddsUp routing [offer] (routing.settle offer) := by
  cases taken : offer.taken with
  | true =>
    refine ⟨fun channel => ?_, ?_, ?_, ?_⟩
    · by_cases here : offer.channel = channel <;> simp [settle, kept, taken, here, held_append]
    all_goals simp [settle, taken]
  | false => constructor <;> simp [settle, kept, taken]

theorem AddsUp.append {first middle last : Routing} {one two : List Offer} (before : AddsUp first one middle)
    (behind : AddsUp middle two last) : AddsUp first (one ++ two) last where
  queued channel := by
    rw [behind.queued, before.queued, Option.map_map]
    simp only [kept, List.filter_append, List.map_append, Function.comp_def, List.append_assoc]
  routed := by rw [behind.routed, before.routed, List.countP_append, Nat.add_assoc]
  dropped := by rw [behind.dropped, before.dropped, List.countP_append, Nat.add_assoc]
  told := by rw [behind.told, before.told, List.filter_append, List.map_append, List.append_assoc]

theorem addsUp (offers : List Offer) : ∀ routing : Routing, AddsUp routing offers (offers.foldl settle routing) := by
  induction offers with
  | nil => exact fun routing => ⟨by simp [kept], rfl, rfl, (List.append_nil _).symm⟩
  | cons offer offers ih => exact fun routing => (addsUp_settle routing offer).append (ih _)

/-! ## One packet -/

/-- A queue of blocks that takes what fits. -/
structure Takes (queue : BlockQueue) : Prop where
  isOpen : queue.isOpen = true
  measured : queue.Measured queue.budget List.length

theorem Takes.fits {queue : BlockQueue} (takes : Takes queue) {block : List UInt8} (some : 0 < block.length) :
    queue.fits block = decide (block.length ≤ queue.budget - (queue.items.map List.length).sum) := by
  have load := takes.measured.load
  simp only [BoundedQueue.fits, takes.measured.weigh, decide_eq_decide]
  omega

theorem Takes.append {queue : BlockQueue} (takes : Takes queue) {block : List UInt8} (fits : queue.fits block = true) :
    Takes (queue.append block) := by
  have served : queue.Serves (.tryPush block) (some (.accepted true)) (queue.append block) :=
    .accepted rfl takes.isOpen fits
  exact ⟨takes.isOpen, served.measured takes.measured⟩

/-- A packet that can be routed: its data can be counted, some queue could hold them, and it is for a channel. -/
structure Deliverable (points : OrderedMap ProbePoint Nat) (queues : List BlockQueue) (packet : Packet) : Prop where
  canonical : packet.Canonical
  small : ∃ queue ∈ queues, packet.data.length ≤ queue.budget
  known : ∃ channel < queues.length, points.find? packet.point = some channel

/-- The routing between two packets. -/
structure Ready (points : OrderedMap ProbePoint Nat) (queues : List BlockQueue) (routing : Routing) : Prop where
  limit : routing.router.limit = (Router.start points queues).limit
  points : routing.router.points = points
  channels : routing.queues.length = queues.length
  takes : ∀ queue ∈ routing.queues, Takes queue

variable {points : OrderedMap ProbePoint Nat} {queues : List BlockQueue} {routing : Routing} {packet : Packet}

theorem Deliverable.within (deliverable : Deliverable points queues packet) :
    packet.data.length ≤ (Router.start points queues).limit := by
  obtain ⟨queue, one, small⟩ := deliverable.small
  have listed : queue.budget ∈ queues.map BoundedQueue.budget := List.mem_map_of_mem one
  have largest : (Router.start points queues).limit = max 0 ((queues.map BoundedQueue.budget).max _) :=
    List.foldl_max_eq_max (List.ne_nil_of_mem listed)
  rw [largest, Nat.zero_max]
  exact Nat.le_trans small (List.le_max_of_mem listed)

theorem Deliverable.target (deliverable : Deliverable points queues packet) :
    points.find? packet.point = some (channelOf points packet) ∧ channelOf points packet < queues.length := by
  obtain ⟨channel, inside, known⟩ := deliverable.known
  rw [channelOf, known]
  exact ⟨rfl, inside⟩

/-- The queue that a packet is for takes it if that is due. -/
theorem Ready.target (ready : Ready points queues routing) (deliverable : Deliverable points queues packet) :
    ∃ queue, routing.queues[channelOf points packet]? = some queue ∧ Takes queue ∧
      queue.fits packet.writeCompact = (offerDue points (room routing.queues) packet).taken := by
  have inside := deliverable.target.2
  rw [← ready.channels] at inside
  have takes := ready.takes _ (List.getElem_mem inside)
  have some : 0 < packet.writeCompact.length := by
    rw [Packet.length_writeCompact, Packet.compactSize]
    omega
  refine ⟨_, List.getElem?_eq_getElem inside, takes, ?_⟩
  rw [takes.fits some, Packet.length_writeCompact, offerDue, room, List.getElem?_eq_getElem inside]

/-- The offer that is made for a packet is the one that is due. -/
theorem Ready.offered (ready : Ready points queues routing) (deliverable : Deliverable points queues packet) :
    offer? packet routing = some (offerDue points (room routing.queues) packet) := by
  obtain ⟨queue, target, takes, fits⟩ := ready.target deliverable
  have pushed : (queue.tryPush packet.writeCompact).1 = queue.fits packet.writeCompact := by
    rw [BoundedQueue.tryPush, takes.isOpen, Bool.true_and]
    split <;> simp_all
  rw [offer?, ready.points, deliverable.target.1]
  simp only [Option.bind_eq_bind, Option.bind_some, target, pushed, fits, Option.pure_def]
  rfl

theorem room_append {channel : Nat} {queue : BlockQueue} (target : queues[channel]? = some queue) (block : List UInt8) :
    room (queues.modify channel fun queue => queue.append block) =
      Function.update (room queues) channel (room queues channel - block.length) := by
  funext other
  by_cases here : other = channel
  · subst here
    simp [room, target, BoundedQueue.append, Nat.sub_sub]
  · rw [Function.update_of_ne here]
    simp [room, Ne.symm here]

theorem takes_append {channel : Nat} {queue : BlockQueue} {block : List UInt8} (takes : ∀ queue ∈ queues, Takes queue)
    (target : queues[channel]? = some queue) (fits : queue.fits block = true) :
    ∀ queue ∈ queues.modify channel fun queue => queue.append block, Takes queue := by
  intro other one
  obtain ⟨place, found⟩ := List.mem_iff_getElem?.mp one
  by_cases here : channel = place
  · subst here
    simp only [List.getElem?_modify_eq, target] at found
    cases found
    exact (takes queue (List.mem_of_getElem? target)).append fits
  · rw [List.getElem?_modify_ne _ _ here] at found
    exact takes other (List.mem_of_getElem? found)

/-- An offer that is due takes its place in the room and changes nothing else. -/
theorem Ready.settled (ready : Ready points queues routing) (deliverable : Deliverable points queues packet) :
    Ready points queues (routing.settle (offerDue points (room routing.queues) packet)) ∧
      room (routing.settle (offerDue points (room routing.queues) packet)).queues =
        roomAfter (room routing.queues) (offerDue points (room routing.queues) packet) := by
  obtain ⟨queue, target, takes, fits⟩ := ready.target deliverable
  unfold settle roomAfter
  cases taken : (offerDue points (room routing.queues) packet).taken with
  | false => exact ⟨⟨ready.limit, ready.points, ready.channels, ready.takes⟩, rfl⟩
  | true =>
    rw [taken] at fits
    exact ⟨⟨ready.limit, ready.points, (List.length_modify _ _ _).trans ready.channels,
      takes_append ready.takes target fits⟩, room_append target _⟩

/-! ## A stream of packets -/

/-- The packets of a stream are offered as they are due, and the beginning of another one is left waiting. -/
theorem consume_packets {next : Packet} {tail missing : List UInt8} {packets : List Packet}
    (deliverable : ∀ packet ∈ packets, Deliverable points queues packet) (last : Deliverable points queues next)
    (cut : tail ++ missing = Wire.write next) (short : missing ≠ []) :
    ∀ {routing : Routing}, Ready points queues routing → consume (packets.flatMap Wire.write ++ tail) routing =
      .ok () (((due points (room routing.queues) packets).foldl settle routing).keep tail) := by
  -- From packet to packet the routing stays ready, with less room.
  induction packets with
  | nil =>
    intro routing ready
    have begins := Packet.ahead_cut last.canonical last.within cut short
    rw [← ready.limit] at begins
    exact consume_of_incomplete begins
  | cons packet packets ih =>
    intro routing ready
    have first := deliverable packet List.mem_cons_self
    obtain ⟨onward, left⟩ := ready.settled first
    have begins := Packet.ahead_write first.canonical first.within (packets.flatMap Wire.write ++ tail)
    rw [← ready.limit] at begins
    rw [List.flatMap_cons, List.append_assoc, consume_of_offer begins (ready.offered first),
      ih (fun other sent => deliverable other (List.mem_cons_of_mem _ sent)) onward, left, due, List.foldl_cons]

/-- What became of packets for queues that had so much room, when the beginning of another packet came last. -/
structure Delivered (points : OrderedMap ProbePoint Nat) (queues : List BlockQueue) (events : List WorkerEvent)
    (packets : List Packet) (tail : List UInt8) (after : Routing) : Prop where
  queued (channel : Nat) : held after.queues channel =
    (held queues channel).map (· ++ kept channel (due points (room queues) packets))
  routed : after.router.routed = (due points (room queues) packets).countP Offer.taken
  dropped : after.router.dropped = (due points (room queues) packets).countP (!·.taken)
  complete : after.router.routed + after.router.dropped = packets.length
  told : after.events =
    events ++ ((due points (room queues) packets).filter (!·.taken)).map (.packetDropped ·.channel)
  pending : after.router.pending = tail
  /-- A client reads a packet that was sent to the channel, and the low four bytes of its sum. -/
  readBack (channel : Nat) : ∀ block ∈ kept channel (due points (room queues) packets),
    ∃ packet ∈ packets, channelOf points packet = channel ∧ block = packet.writeCompact ∧
      (Wire.read : Decoder (UInt32 × ProbePoint × UInt32 × UInt32 × UInt32 × List UInt8 × UInt32)) block =
        .ok (Packet.syncWord, packet.point, packet.format, packet.clockHigh, packet.clockLow, packet.data,
          packet.checksum.toUInt32) []

/-- However the stream of packets is cut, nothing is refused, and every packet reaches its queue in its turn as far as
there is room. -/
theorem delivered_in_order (points : OrderedMap ProbePoint Nat) {queues : List BlockQueue} (events : List WorkerEvent)
    {packets : List Packet} {next : Packet} {tail missing : List UInt8} {chunks : List (List UInt8)}
    (takes : ∀ queue ∈ queues, Takes queue) (deliverable : ∀ packet ∈ packets, Deliverable points queues packet)
    (last : Deliverable points queues next) (cut : tail ++ missing = Wire.write next) (short : missing ≠ [])
    (stream : chunks.flatten = packets.flatMap Wire.write ++ tail) :
    ∃ after, feedAll chunks (start points queues events) = .ok () after ∧
      Delivered points queues events packets tail after := by
  have ready : Ready points queues (start points queues events) := ⟨rfl, rfl, rfl, takes⟩
  have verdict := (feedAll_eq chunks (settled_start points queues events)).2
  have waiting : (start points queues events).router.pending = [] := rfl
  rw [waiting, List.nil_append, stream, consume_packets deliverable last cut short ready] at verdict
  obtain ⟨queued, routed, dropped, told⟩ := addsUp (due points (room queues) packets) (start points queues events)
  replace routed := routed.trans (Nat.zero_add _)
  replace dropped := dropped.trans (Nat.zero_add _)
  refine ⟨_, verdict, queued, routed, dropped, ?_, told, rfl, ?_⟩
  · exact (congrArg₂ (· + ·) routed dropped).trans (countP_due points (room queues) packets)
  · intro channel block one
    obtain ⟨offer, chosen, rfl⟩ := List.mem_map.mp one
    obtain ⟨made, here⟩ := List.mem_filter.mp chosen
    obtain ⟨packet, sent, target, shape⟩ := mem_due made
    obtain ⟨-, mine⟩ := Bool.and_eq_true_iff.mp here
    refine ⟨packet, sent, target.symm.trans (eq_of_beq mine), shape, ?_⟩
    rw [shape, Packet.read_writeCompact (deliverable packet sent).canonical]

/-- Two packets for a queue that has room for one, and the beginning of a third. -/
theorem sample_delivered :
    let queues := [(BlockQueue.ofBudget 40).opened]
    let points : OrderedMap ProbePoint Nat := .ofList [(⟨7⟩, 0)]
    let beginning := (Wire.write samplePacket).take 30
    let chunks := [sampleStream.take 30, [], sampleStream.drop 30 ++ beginning]
    ∃ after, feedAll chunks (start points queues []) = .ok () after ∧
      Delivered points queues [] [samplePacket, samplePacket] beginning after := by
  intro queues points beginning chunks
  have takes : ∀ queue ∈ queues, Takes queue :=
    List.forall_mem_singleton.mpr ⟨rfl, rfl, rfl, rfl, Nat.zero_le _⟩
  have deliverable : Deliverable points queues samplePacket :=
    ⟨show 2 < 2 ^ 32 by decide, ⟨_, List.mem_singleton_self _, by decide⟩, 0, by decide, rfl⟩
  have stream : chunks.flatten = [samplePacket, samplePacket].flatMap Wire.write ++ beginning := by
    simp [chunks, ← List.append_assoc, sampleStream]
  exact delivered_in_order points [] takes (by simp [deliverable]) deliverable (List.take_append_drop 30 _) (by decide)
    stream

end Routing

end DspInspector

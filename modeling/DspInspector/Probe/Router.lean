import DspInspector.Data.Action
import DspInspector.Data.OrderedMap
import DspInspector.Probe.Event
import DspInspector.Probe.Packet
import DspInspector.Probe.Queue
import DspInspector.Wire.Progress

/-!
# Packet routing

The driver sends the packets of all extraction probes in one stream, cut into chunks anywhere. The
router puts the packets together again and hands each one to the queue of its channel. A packet that
does not fit into its queue is dropped, which is only counted and reported; anything wrong with the
stream itself ends the routing. A packet with more data than the largest queue could hold is not
waited for.
-/

namespace DspInspector

/-- What is wrong with the stream. -/
inductive StreamFault where
  | malformed (cause : WireError)
  | oversized (size limit : Nat)
  | unknownPoint (point : ProbePoint)
  | unknownChannel (channel : Nat)
  deriving DecidableEq

/-- The fault as it is shown to a person. -/
def StreamFault.message : StreamFault → String
  | .malformed cause => cause.message
  | .oversized size limit => s!"Extracted packet data size {size} exceeds the limit of {limit} bytes"
  | .unknownPoint point => "Packet with unknown probe point id: " ++ point.text
  | .unknownChannel channel => s!"Packet with wrong probe id: {channel}"

instance : Ranked ProbePoint where
  rank point := point.raw.toNat
  rank_injective a b same := by
    cases a
    cases b
    simpa [UInt32.toNat_inj] using same

/-- What the bytes of a stream begin with. -/
inductive Ahead where
  /-- A packet of which bytes are still to come. -/
  | incomplete
  | packet (packet : Packet) (rest : List UInt8)

namespace Packet

theorem consuming_readSync : Decoder.Consuming readSync := by
  refine (Decoder.Consuming.bind (Decoder.consuming_take (by decide)) fun _ =>
    Decoder.forward_pure _).bind fun found => ?_
  intro bytes value rest read
  by_cases same : found = syncWord
  · simp only [same, ↓reduceIte] at read
    cases read
    exact Nat.le_refl _
  · simp only [same, ↓reduceIte] at read
    cases read

theorem forward_word {α : Type} (width : Nat) (ofNat : Nat → α) (toNat : α → Nat) :
    Decoder.Forward (Wire.word width ofNat toNat).read :=
  (Decoder.forward_take width).bind fun _ => Decoder.forward_pure _

theorem forward_fields :
    Decoder.Forward (Wire.read : Decoder (ProbePoint × UInt32 × UInt32 × UInt32 × List UInt8)) := by
  have word : Decoder.Forward (Wire.read : Decoder UInt32) := forward_word 4 _ _
  have byte : Decoder.Forward (Wire.read : Decoder UInt8) := forward_word 1 _ _
  have data : Decoder.Forward (Wire.read : Decoder (List UInt8)) :=
    (Decoder.forward_take 4).bind fun count => Decoder.forward_many byte _
  have pair {α β : Type} [one : Wire α] [two : Wire β] (first : Decoder.Forward one.read)
      (second : Decoder.Forward two.read) : Decoder.Forward (Wire.read : Decoder (α × β)) :=
    first.bind fun _ => second.bind fun _ => Decoder.forward_pure _
  have point : Decoder.Forward (Wire.read : Decoder ProbePoint) :=
    word.bind fun _ => Decoder.forward_pure _
  exact pair point (pair word (pair word (pair word data)))

/-- A packet takes bytes away from the stream. -/
theorem consuming_read : Decoder.Consuming (Wire.read : Decoder Packet) := by
  refine consuming_readSync.bind fun _ => forward_fields.bind fun fields => ?_
  obtain ⟨point, format, clockHigh, clockLow, data⟩ := fields
  refine (forward_word 8 UInt64.ofNat UInt64.toNat).bind fun found => ?_
  intro bytes value rest read
  split at read
  · cases read
    exact Nat.le_refl _
  · cases read

/-- What a stream begins with, when packets have at most `limit` bytes of data. -/
def ahead (limit : Nat) (bytes : List UInt8) : Except StreamFault Ahead :=
  if bytes.length < headerSize then .ok .incomplete
  else
    match peekDataSize (bytes.take headerSize) with
    | .error cause => .error (.malformed cause)
    | .ok count =>
      if limit < count then .error (.oversized count limit)
      else if bytes.length < headerSize + count + checksumSize then .ok .incomplete
      else
        match (Wire.read : Decoder Packet) bytes with
        | .error cause _ => .error (.malformed cause)
        | .ok packet rest => .ok (.packet packet rest)

theorem length_of_ahead {limit : Nat} {bytes rest : List UInt8} {packet : Packet}
    (next : ahead limit bytes = .ok (.packet packet rest)) : rest.length < bytes.length := by
  unfold ahead at next
  split at next
  · cases next
  · split at next
    · cases next
    · split at next
      · cases next
      · split at next
        · cases next
        · split at next
          · cases next
          · rename_i read
            cases next
            exact consuming_read _ _ _ read

end Packet

/-- The routing so far. -/
structure Router where
  /-- The channel of each probe point. -/
  points : OrderedMap ProbePoint Nat
  /-- The largest data size that is accepted. -/
  limit : Nat
  /-- The bytes of a packet that is not complete yet. -/
  pending : List UInt8 := []
  /-- The number of packets that went into a queue. -/
  routed : Nat := 0
  /-- The number of packets lost at a full or closed queue. -/
  dropped : Nat := 0

/-- A router with the queues it fills and the events it has caused. -/
structure Routing where
  router : Router
  queues : List BlockQueue
  events : List WorkerEvent

namespace Router

/-- A router that has seen nothing; the largest queue decides on the largest packet. -/
def start (points : OrderedMap ProbePoint Nat) (queues : List BlockQueue) : Router where
  points
  limit := (queues.map BoundedQueue.budget).foldl max 0

end Router

namespace Routing

/-- The routing with other bytes waiting. -/
def keep (bytes : List UInt8) (routing : Routing) : Routing :=
  { routing with router := { routing.router with pending := bytes } }

/-- Hands one packet to the queue of its channel. -/
def route (packet : Packet) : Action StreamFault Routing Unit := fun routing =>
  match routing.router.points.find? packet.point with
  | none => .error (.unknownPoint packet.point) routing
  | some channel =>
    match routing.queues[channel]? with
    | none => .error (.unknownChannel channel) routing
    | some queue =>
      match queue.tryPush packet.writeCompact with
      | (true, queue) =>
        .ok () { routing with
          router := { routing.router with routed := routing.router.routed + 1 }
          queues := routing.queues.set channel queue }
      | (false, _) =>
        .ok () { routing with
          router := { routing.router with dropped := routing.router.dropped + 1 }
          events := routing.events ++ [.packetDropped channel] }

/-- Routes every complete packet at the start of some bytes and keeps what is left of them. A packet
that cannot be read stays, one that has no queue does not. -/
def consume (bytes : List UInt8) : Action StreamFault Routing Unit := fun routing =>
  match _ : Packet.ahead routing.router.limit bytes with
  | .error cause => .error cause (routing.keep bytes)
  | .ok .incomplete => .ok () (routing.keep bytes)
  | .ok (.packet packet rest) =>
    match route packet routing with
    | .error cause after => .error cause (after.keep rest)
    | .ok _ after => consume rest after
termination_by bytes.length
decreasing_by exact Packet.length_of_ahead ‹_›

/-- Takes a chunk of the stream and routes every packet it completes. -/
def feed (chunk : List UInt8) : Action StreamFault Routing Unit := fun routing =>
  consume (routing.router.pending ++ chunk) routing

end Routing

end DspInspector

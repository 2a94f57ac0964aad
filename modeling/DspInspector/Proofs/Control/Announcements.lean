import DspInspector.Proofs.Control.Replies

/-!
# What a request announces

In front of a payload stand the size of the message, the size of what follows the first header, and, where the access
is tunneled, the size of what belongs to the real parameter. A receiver who believes them finds a payload behind the
headers (`Arrival.payload`). Each size is cut to the payload limit and the payload is not, so the sizes are right
exactly where headers and payload fit into the limit together; of a longer payload the end is lost
(`request_announced`).
-/

namespace DspInspector

/-- A request as its receiver reads it: the size in front, the headers, and the bytes behind them. -/
structure Arrival where
  size : Nat
  header : MessageHeader
  tunnel : Option TunnelHeader
  body : List UInt8
  deriving DecidableEq

namespace Arrival

/-- A second header follows where the first one names the vendor parameter. -/
def readTunnel (header : MessageHeader) : Decoder (Option TunnelHeader) :=
  if header.parameter = tunnelParameter then do
    let tunnel ← (Wire.read : Decoder TunnelHeader)
    pure (some tunnel)
  else pure none

def read : Decoder Arrival := do
  let size ← (Wire.read : Decoder UInt32)
  let header ← (Wire.read : Decoder MessageHeader)
  let tunnel ← readTunnel header
  let body ← get
  set ([] : List UInt8)
  pure ⟨size.toNat, header, tunnel, body⟩

/-- The bytes of the second header. -/
def tunnelBytes (arrival : Arrival) : Nat := if arrival.tunnel.isSome then TunnelHeader.bytes else 0

/-- The sizes of what follows the first header, as the headers give them. -/
def valueSizes (arrival : Arrival) : List Nat :=
  arrival.header.dataSize.toNat :: arrival.tunnel.toList.map (·.size.toNat)

/-- The length of a payload that none of the sizes excludes. -/
def room (arrival : Arrival) : Nat :=
  (arrival.valueSizes.map (· - arrival.tunnelBytes)).foldl min
    (arrival.size - (MessageHeader.bytes + arrival.tunnelBytes))

/-- The payload that a receiver finds who believes the sizes. -/
def payload (arrival : Arrival) : List UInt8 := arrival.body.take arrival.room

end Arrival

/-- The size in front is that of what follows it, the other sizes are those of the payload with the second header, and
who believes them receives the payload. -/
def SelfDescribing (request payload : List UInt8) : Prop :=
  ∃ arrival, Arrival.read request = .ok arrival [] ∧ arrival.body = payload ∧
    request.length = 4 + arrival.size ∧ (∀ size ∈ arrival.valueSizes, size = arrival.tunnelBytes + payload.length) ∧
    arrival.payload = payload

namespace MessageHeader

theorem toNat_parameter (command : UInt32) (target : InstanceId) (parameter : UInt32) (size : Nat) :
    (MessageHeader.of command target parameter size).parameter.toNat = parameter.toNat % 256 := by
  have limit : payloadLimit = 4096 := rfl
  have shifted : ((MessageHeader.of command target parameter size).extended >>> UInt32.ofNat 20).toNat =
      parameter.toNat % 256 := by
    rw [UInt32.toNat_shiftRight, toNat_extended, Nat.shiftRight_eq_div_pow]
    show _ / 2 ^ 20 = _
    omega
  show ((MessageHeader.of command target parameter size).extended >>> UInt32.ofNat 20 &&& 0xFF).toNat = _
  rw [toNat_and_mask 8 rfl, shifted]
  omega

end MessageHeader

namespace LargeMessage

variable (target : InstanceId) (parameter : UInt32) (payload : List UInt8)

/-- The request to write a payload. -/
def toWrite : LargeMessage := of .set target parameter payload.length payload

/-- The bytes of the second header in front of a parameter. -/
def tunnelBytes : Nat := if needsTunnel parameter then TunnelHeader.bytes else 0

theorem headerBytes_toWrite :
    (toWrite target parameter payload).headerBytes = MessageHeader.bytes + tunnelBytes parameter := by
  unfold toWrite of tunnelBytes
  split <;> rfl

theorem payload_toWrite : (toWrite target parameter payload).payload = payload := by
  unfold toWrite of
  split <;> rfl

/-- What follows the first header is read as the second header, where there is one, and the payload. -/
theorem readTunnel_toWrite :
    Arrival.readTunnel (toWrite target parameter payload).header (toWrite target parameter payload).tail =
      .ok (toWrite target parameter payload).tunnel payload := by
  unfold Arrival.readTunnel
  by_cases tunneled : needsTunnel parameter = true
  · obtain ⟨header, tail⟩ := of_tunneled tunneled .set target payload.length payload
    have names : (toWrite target parameter payload).header.parameter = tunnelParameter := by
      rw [toWrite, header, ← UInt32.toNat_inj, MessageHeader.toNat_parameter]
      rfl
    have second : (toWrite target parameter payload).tunnel =
        some ⟨parameter, UInt32.ofNat (min (payload.length + TunnelHeader.bytes) payloadLimit)⟩ := by
      rw [toWrite, of, if_pos tunneled]
    rw [if_pos names, second, toWrite, tail]
    exact Decoder.bind_ok (Wire.Faithful.echoed _ _)
  · obtain ⟨header, tail⟩ := of_direct tunneled .set target payload.length payload
    have names : (toWrite target parameter payload).header.parameter ≠ tunnelParameter := by
      rw [toWrite, header, Ne, ← UInt32.toNat_inj, MessageHeader.toNat_parameter, eq_of_direct tunneled]
      decide
    have second : (toWrite target parameter payload).tunnel = none := by
      rw [toWrite, of, if_neg tunneled]
    rw [if_neg names, second, toWrite, tail]
    rfl

/-- The request as its receiver reads it. -/
def arrived : Arrival where
  size := min (MessageHeader.bytes + tunnelBytes parameter + payload.length) payloadLimit
  header := (toWrite target parameter payload).header
  tunnel := (toWrite target parameter payload).tunnel
  body := payload

theorem read_toWrite :
    Arrival.read (toWrite target parameter payload).encode = .ok (arrived target parameter payload) [] := by
  have limit : payloadLimit = 4096 := rfl
  have announced :
      (UInt32.ofNat (min (MessageHeader.bytes + tunnelBytes parameter + payload.length) payloadLimit)).toNat =
      min (MessageHeader.bytes + tunnelBytes parameter + payload.length) payloadLimit := by
    rw [UInt32.toNat_ofNat']
    omega
  rw [encode_eq, headerBytes_toWrite, payload_toWrite, arrived, ← announced]
  refine (Decoder.bind_ok (Wire.Faithful.echoed (UInt32.ofNat _) _)).trans ?_
  refine (Decoder.bind_ok (Wire.Faithful.echoed _ _)).trans ?_
  exact Decoder.bind_ok (readTunnel_toWrite target parameter payload)

theorem tunnelBytes_arrived : (arrived target parameter payload).tunnelBytes = tunnelBytes parameter := by
  unfold arrived toWrite of tunnelBytes Arrival.tunnelBytes
  split <;> rfl

theorem valueSizes_arrived :
    (arrived target parameter payload).valueSizes =
      List.replicate (if needsTunnel parameter then 2 else 1)
        (min (tunnelBytes parameter + payload.length) payloadLimit) := by
  have limit : payloadLimit = 4096 := rfl
  unfold arrived toWrite of tunnelBytes Arrival.valueSizes
  split
  · have small : min (TunnelHeader.bytes + payload.length) payloadLimit < 4294967296 := by omega
    simp [MessageHeader.toNat_dataSize, Nat.add_comm payload.length, Nat.mod_eq_of_lt small]
  · simp [MessageHeader.toNat_dataSize]

theorem payload_arrived :
    (arrived target parameter payload).payload =
      payload.take (payloadLimit - (MessageHeader.bytes + tunnelBytes parameter)) := by
  have room : (arrived target parameter payload).room =
      min (payloadLimit - (MessageHeader.bytes + tunnelBytes parameter)) payload.length := by
    unfold Arrival.room
    rw [valueSizes_arrived, tunnelBytes_arrived]
    show List.foldl min (min (MessageHeader.bytes + tunnelBytes parameter + payload.length) payloadLimit - _) _ = _
    split
    · simp
      omega
    · simp
      omega
  rw [Arrival.payload, room]
  exact List.take_eq_take_min.symm

theorem length_toWrite :
    (toWrite target parameter payload).encode.length =
      4 + (MessageHeader.bytes + tunnelBytes parameter + payload.length) := by
  have header (header : MessageHeader) : (Wire.write header).length = MessageHeader.bytes := rfl
  have second (tunnel : TunnelHeader) : (Wire.write tunnel).length = TunnelHeader.bytes := rfl
  unfold toWrite of tunnelBytes encode
  split
  · simp only [List.length_append, length_littleEndian, header, second]
    omega
  · simp only [List.length_append, length_littleEndian, header, List.length_nil]
    omega

theorem selfDescribing_iff :
    SelfDescribing (toWrite target parameter payload).encode payload ↔
      MessageHeader.bytes + tunnelBytes parameter + payload.length ≤ payloadLimit := by
  have read := read_toWrite target parameter payload
  have length := length_toWrite target parameter payload
  constructor
  · rintro ⟨arrival, isRead, -, whole, -⟩
    rw [read] at isRead
    cases isRead
    have cut : (arrived target parameter payload).size ≤ payloadLimit := Nat.min_le_right _ _
    omega
  · intro fits
    refine ⟨arrived target parameter payload, read, rfl, ?_, ?_, ?_⟩
    · rw [length]
      exact congrArg (4 + ·) (Nat.min_eq_left fits).symm
    · intro size member
      rw [valueSizes_arrived] at member
      rw [tunnelBytes_arrived, List.eq_of_mem_replicate member]
      omega
    · rw [payload_arrived, List.take_of_length_le (by omega)]

/-- A request carries its payload at its end and as it is. Every size is the right one cut to the payload limit, and a
receiver who believes the sizes loses what does not fit into the limit together with the headers. -/
theorem request_announced (target : InstanceId) (parameter : UInt32) (payload : List UInt8) :
    let request := (of .set target parameter payload.length payload).encode
    payload <:+ request ∧
    request.length = 4 + (MessageHeader.bytes + tunnelBytes parameter + payload.length) ∧
    (∃ arrival, Arrival.read request = .ok arrival [] ∧ arrival.body = payload ∧
      arrival.tunnel.isSome = needsTunnel parameter ∧
      arrival.size = min (MessageHeader.bytes + tunnelBytes parameter + payload.length) payloadLimit ∧
      (∀ size ∈ arrival.valueSizes, size = min (tunnelBytes parameter + payload.length) payloadLimit) ∧
      arrival.payload = payload.take (payloadLimit - (MessageHeader.bytes + tunnelBytes parameter))) ∧
    (SelfDescribing request payload ↔
      MessageHeader.bytes + tunnelBytes parameter + payload.length ≤ payloadLimit) := by
  intro request
  refine ⟨?_, length_toWrite target parameter payload, ?_, selfDescribing_iff target parameter payload⟩
  · have carried : (toWrite target parameter payload).payload = payload := payload_toWrite target parameter payload
    have last : (toWrite target parameter payload).payload <:+ request := List.suffix_append _ _
    rwa [carried] at last
  · have tunneled : (arrived target parameter payload).tunnel.isSome = needsTunnel parameter := by
      unfold arrived toWrite of
      cases needsTunnel parameter <;> rfl
    refine ⟨arrived target parameter payload, read_toWrite target parameter payload, rfl, tunneled, rfl, ?_,
      payload_arrived target parameter payload⟩
    intro size member
    rw [valueSizes_arrived] at member
    exact List.eq_of_mem_replicate member

/-- The longest payload that is let through does not fit into the limit with its headers: all three sizes are cut, and who
believes them does not see the last sixteen bytes. -/
theorem longest_payload_misannounced :
    let payload : List UInt8 := List.replicate 4096 0xAB
    let request := (of .set ⟨9, 2⟩ 0x20 payload.length payload).encode
    payload.length ≤ payloadLimit ∧ ¬ SelfDescribing request payload ∧ request.length = 4 + 4112 ∧
      ∃ arrival, Arrival.read request = .ok arrival [] ∧ arrival.size = 4096 ∧ arrival.valueSizes = [4096, 4096] ∧
        arrival.payload.length = 4080 := by
  intro payload request
  have length : payload.length = 4096 := List.length_replicate
  have second : tunnelBytes 0x20 = 8 := rfl
  have header : MessageHeader.bytes = 8 := rfl
  have limit : payloadLimit = 4096 := rfl
  refine ⟨Nat.le_of_eq length, ?_, ?_, arrived ⟨9, 2⟩ 0x20 payload, read_toWrite ⟨9, 2⟩ 0x20 payload, ?_, ?_, ?_⟩
  · intro describes
    have fits := (selfDescribing_iff ⟨9, 2⟩ 0x20 payload).mp describes
    omega
  · exact (length_toWrite ⟨9, 2⟩ 0x20 payload).trans (by rw [second, header, length])
  · show min _ _ = 4096
    omega
  · have clamped : min (tunnelBytes 0x20 + payload.length) payloadLimit = 4096 := by omega
    rw [valueSizes_arrived, clamped]
    rfl
  · rw [payload_arrived, List.length_take, length]
    rfl

end LargeMessage

end DspInspector

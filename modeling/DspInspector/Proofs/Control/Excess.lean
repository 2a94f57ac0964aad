import DspInspector.Control.Simulation
import DspInspector.Proofs.Control.Calls
import DspInspector.Proofs.Control.Replies
import DspInspector.Proofs.Wire.Verbatim

/-!
# How much comes back

A caller says how many bytes it wants, and has room for no more. A bare reply is cut to that, and so is every answer
from an image; a reply with a second header is cut to what this header announces. So only a tunneled reply can bring
more than was asked for, and it does when it announces more and has it (`Excessive`).
-/

namespace DspInspector

/-- The device gives no more bytes than there is room for. -/
def ControlDevice.Confined {δ : Type} (device : ControlDevice δ) : Prop :=
  ∀ path request room state,
    (device.read path request room).Yields state (fun reply _ => reply.length ≤ room) fun _ _ => True

namespace DebugFs

/-- What is taken out of a reply. -/
inductive Unwrapped (parameter : ParameterId) (size : Nat) : List UInt8 → List UInt8 → Prop where
  | bare (direct : needsTunnel parameter.raw = false) (reply : List UInt8) :
    Unwrapped parameter size reply (reply.take (min size payloadLimit))
  | announced (tunneled : needsTunnel parameter.raw = true) (header : TunnelHeader) (body : List UInt8) :
    Unwrapped parameter size (Wire.write header ++ body) (body.take header.size.toNat)

/-- The reply announces more than was asked for and has more. -/
def Excessive (size : Nat) (reply : List UInt8) : Prop :=
  ∃ (header : TunnelHeader) (body : List UInt8), reply = Wire.write header ++ body ∧
    min size payloadLimit < header.size.toNat ∧ min size payloadLimit < body.length

section Replies

variable {target : InstanceId} {parameter : ParameterId} {size : Nat} {reply payload : List UInt8}

/-- A reply that is unwrapped at all is unwrapped in the way of its access. -/
theorem unwrapped_of_replyPayload (success : (queryMessage target parameter size).replyPayload reply = .ok payload) :
    Unwrapped parameter size reply payload := by
  rw [LargeMessage.replyPayload] at success
  by_cases tunneled : needsTunnel parameter.raw = true
  · have second : ∃ header, (queryMessage target parameter size).tunnel = some header := by
      rw [queryMessage, LargeMessage.of, if_pos tunneled]
      exact ⟨_, rfl⟩
    obtain ⟨asked, second⟩ := second
    rw [second] at success
    dsimp only at success
    split at success
    · rename_i header body read
      cases success
      obtain ⟨rfl, -⟩ := Wire.Verbatim.of_read read
      exact .announced tunneled header body
    · cases success
  · have second : (queryMessage target parameter size).tunnel = none := by
      rw [queryMessage, LargeMessage.of, if_neg tunneled]
    rw [second, queryMessage, (LargeMessage.of_direct tunneled _ _ _ _).1, MessageHeader.toNat_dataSize] at success
    cases success
    exact .bare (Bool.eq_false_iff.mpr tunneled) reply

theorem Unwrapped.length_le (unwrapped : Unwrapped parameter size reply payload) : payload.length ≤ reply.length := by
  cases unwrapped with
  | bare => exact List.length_take_le' _ _
  | announced tunneled header body =>
    have shorter := List.length_take_le' header.size.toNat body
    rw [List.length_append]
    omega

/-- More than was asked for comes from an excessive reply and from nothing else. -/
theorem Unwrapped.length_le_iff (unwrapped : Unwrapped parameter size reply payload) :
    payload.length ≤ min size payloadLimit ↔ ¬ (needsTunnel parameter.raw = true ∧ Excessive size reply) := by
  cases unwrapped with
  | bare direct =>
    have within : (reply.take (min size payloadLimit)).length ≤ min size payloadLimit := List.length_take_le _ _
    refine iff_of_true within fun excess => ?_
    rw [direct] at excess
    exact absurd excess.1 (by decide)
  | announced tunneled header body =>
    rw [List.length_take]
    constructor
    · rintro within ⟨-, other, otherBody, same, announces, has⟩
      -- a reply begins with one header only
      obtain ⟨rfl, rfl⟩ := (Wire.Faithful.echoed header).append_inj (Wire.Faithful.echoed other) same
      omega
    · intro modest
      by_contra more
      exact modest ⟨tunneled, header, body, rfl, by omega, by omega⟩

/-- Sizes above the limit ask for the same as the limit. -/
theorem queryMessage_min (target : InstanceId) (parameter : ParameterId) (size : Nat) :
    queryMessage target parameter (min size payloadLimit) = queryMessage target parameter size := by
  -- with or without room for a second header, what is asked for is cut to the limit in the end
  have header (command : UInt32) (named : UInt32) (more : Nat) :
      MessageHeader.of command target named (min size payloadLimit + more) = .of command target named (size + more) := by
    have same : min (min size payloadLimit + more) payloadLimit = min (size + more) payloadLimit := by omega
    rw [MessageHeader.of, MessageHeader.of, same]
  have second : min (min size payloadLimit + TunnelHeader.bytes) payloadLimit =
      min (size + TunnelHeader.bytes) payloadLimit := by omega
  rw [queryMessage, queryMessage, LargeMessage.of, LargeMessage.of]
  split
  · simp only [header, second]
  · rw [← Nat.add_zero (min size payloadLimit), header, Nat.add_zero]

end Replies

variable {δ : Type} {entries : ControlEntries} {device : ControlDevice δ} {target : InstanceId}
  {parameter : ParameterId} {size : Nat} {state after : CountedDevice δ} {returned : List UInt8}

theorem reply_of_query (read : query entries device target parameter size state = .ok returned after) :
    ∃ awake reply served,
      device.read entries.control (queryMessage target parameter size).encode payloadLimit awake = .ok reply served ∧
      Unwrapped parameter size reply returned := by
  have yields : (query entries device target parameter size).Yields state (fun returned _ => ∃ awake reply served,
      device.read entries.control (queryMessage target parameter size).encode payloadLimit awake = .ok reply served ∧
      Unwrapped parameter size reply returned) fun _ _ => True := by
    refine yields_query.mpr (Action.yields_of_forall (fun _ awake => ?_) fun _ _ => trivial)
    cases replied : device.read entries.control (queryMessage target parameter size).encode payloadLimit awake with
    | error cause served => simp only [Action.Yields, replied]
    | ok reply served =>
      rw [Action.yields_of_ok replied]
      split
      · rename_i payload success
        exact ⟨awake, reply, served, replied, unwrapped_of_replyPayload success⟩
      · trivial
  exact yields.of_ok read

/-- Reading a parameter through a connection is one query. -/
theorem query_of_getParameter
    (read : Connection.getParameter (transport entries device) target parameter size state = .ok returned after) :
    query entries device target parameter size state = .ok returned after := by
  have asked : query entries device target parameter (min size payloadLimit) state = .ok returned after :=
    Action.of_mapError_ok read
  rw [query, queryMessage_min] at asked
  exact asked

end DebugFs

open DebugFs

/-- What a successful read returns is taken out of a reply of the device, and never longer than the payload limit. It
is longer than what was asked for exactly when the access is tunneled and the reply announces more than that and has
it. From an image no more comes back than was asked for. -/
theorem returned_length_le_iff {δ : Type} {device : ControlDevice δ} (confined : device.Confined) :
    (∀ (entries : ControlEntries) (target : InstanceId) (parameter : ParameterId) (size : Nat)
      (state after : CountedDevice δ) (returned : List UInt8),
      query entries device target parameter size state = .ok returned after ∨
        Connection.getParameter (transport entries device) target parameter size state = .ok returned after →
      ∃ awake reply served,
        device.read entries.control (queryMessage target parameter size).encode payloadLimit awake =
          .ok reply served ∧
        Unwrapped parameter size reply returned ∧ returned.length ≤ payloadLimit ∧
        (returned.length ≤ min size payloadLimit ↔
          ¬ (needsTunnel parameter.raw = true ∧ Excessive size reply))) ∧
    ∀ (image : Image) (target : InstanceId) (parameter : ParameterId) (size : Nat) (simulation after : Simulation)
      (returned : List UInt8),
      Connection.getParameter (Simulation.transport image) target parameter size simulation = .ok returned after →
      returned.length ≤ min size payloadLimit := by
  constructor
  · intro entries target parameter size state after returned read
    have asked : query entries device target parameter size state = .ok returned after :=
      read.elim id query_of_getParameter
    obtain ⟨awake, reply, served, replied, unwrapped⟩ := reply_of_query asked
    have room : reply.length ≤ payloadLimit := (confined _ _ _ awake).of_ok replied
    exact ⟨awake, reply, served, replied, unwrapped, Nat.le_trans unwrapped.length_le room, unwrapped.length_le_iff⟩
  · intro image target parameter size simulation after returned read
    have asked : (Simulation.transport image).query target parameter (min size payloadLimit) simulation =
        .ok returned after := Action.of_mapError_ok read
    simp only [Simulation.transport] at asked
    split at asked
    · cases asked
      exact List.length_take_le _ _
    · cases asked

namespace DebugFs

theorem holding_confined (parameter : ParameterId) (value padding : List UInt8) :
    (holding parameter value padding).Confined :=
  fun _ _ _ _ => List.length_take_le _ _

/-- The props of an instance are cut to the four bytes that were asked for. -/
theorem returned_length_le_of_props :
    let driver := holding (.ofInstance .props) (List.replicate 8 0xAB) []
    driver.Confined ∧ ∃ returned after,
      query .standard driver ⟨9, 2⟩ (.ofInstance .props) 4 ⟨(), .zero⟩ = .ok returned after ∧ returned.length ≤ 4 := by
  have confined := holding_confined (.ofInstance .props) (List.replicate 8 0xAB) []
  obtain ⟨_, _, _, _, _, _, modest⟩ :=
    (returned_length_le_iff confined).1 .standard ⟨9, 2⟩ (.ofInstance .props) 4 ⟨(), .zero⟩ _ _ (.inl rfl)
  exact ⟨confined, _, _, rfl, modest.mpr fun ⟨tunneled, _⟩ => nomatch tunneled⟩

/-- Asked for four bytes of another parameter, a driver gives all eight that it has, and all are returned. -/
theorem unasked_bytes_returned :
    let driver := holding ⟨7⟩ (List.replicate 8 0xAB) []
    driver.Confined ∧
      (∃ after, query .standard driver ⟨0, 0⟩ ⟨7⟩ 4 ⟨(), .zero⟩ = .ok (List.replicate 8 0xAB) after) ∧
      (∃ after, Connection.getParameter (transport .standard driver) ⟨0, 0⟩ ⟨7⟩ 4 ⟨(), .zero⟩ =
        .ok (List.replicate 8 0xAB) after) ∧
      ¬ (List.replicate 8 (0xAB : UInt8)).length ≤ min 4 payloadLimit :=
  ⟨holding_confined _ _ _, ⟨_, rfl⟩, ⟨_, rfl⟩, by decide⟩

end DebugFs

end DspInspector

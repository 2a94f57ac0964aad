import DspInspector.Proofs.Control.Requests
import Mathlib.Data.List.TakeDrop

/-!
# What comes back

A driver that holds a value answers with the value, behind a second header when the access is tunneled, and
gives no more bytes than it was asked for. The room for an answer is the payload limit whatever its framing,
so of a tunneled value at most eight bytes are lost: `query_held` says what is returned for every length, and
that it is the value exactly when the value fits behind its header.
-/

namespace DspInspector

/-- The answer of a driver that holds a value. What follows a tunneled value is no part of it. -/
def framedReply (parameter : ParameterId) (value padding : List UInt8) : List UInt8 :=
  if needsTunnel parameter.raw then
    Wire.write (TunnelHeader.mk parameter.raw (UInt32.ofNat value.length)) ++ (value ++ padding)
  else value

/-- How much of a value the room for an answer holds. -/
def valueRoom (parameter : ParameterId) : Nat :=
  if needsTunnel parameter.raw then payloadLimit - TunnelHeader.bytes else payloadLimit

namespace MessageHeader

theorem toNat_dataSize (command : UInt32) (target : InstanceId) (parameter : UInt32) (size : Nat) :
    (MessageHeader.of command target parameter size).dataSize.toNat = min size payloadLimit := by
  have limit : payloadLimit = 4096 := rfl
  rw [dataSize, UInt32.toNat_and, toNat_extended]
  refine (Nat.and_two_pow_sub_one_eq_mod _ 20).trans ?_
  omega

end MessageHeader

namespace DebugFs

variable {target : InstanceId} {parameter : ParameterId} {capacity : Nat} {value padding : List UInt8}

/-- The value is taken out of an answer that was cut. -/
theorem replyPayload_framed (asked : capacity ≤ payloadLimit) (fits : value.length ≤ capacity) :
    (queryMessage target parameter capacity).replyPayload ((framedReply parameter value padding).take payloadLimit) =
      .ok (value.take (valueRoom parameter)) := by
  have limit : payloadLimit = 4096 := rfl
  by_cases tunneled : needsTunnel parameter.raw = true
  · let header : TunnelHeader := ⟨parameter.raw, UInt32.ofNat value.length⟩
    have announced : header.size.toNat = value.length := by
      show (UInt32.ofNat value.length).toNat = value.length
      rw [UInt32.toNat_ofNat']
      omega
    -- the second header always fits, so that the cut goes through the value or behind it
    have cut : (framedReply parameter value padding).take payloadLimit =
        Wire.write header ++ (value ++ padding).take (payloadLimit - TunnelHeader.bytes) := by
      have length : (Wire.write header).length = TunnelHeader.bytes := rfl
      rw [framedReply, if_pos tunneled, List.take_append, List.take_of_length_le (by rw [length]; decide), length]
    have read := Wire.Faithful.echoed header ((value ++ padding).take (payloadLimit - TunnelHeader.bytes))
    have second : (queryMessage target parameter capacity).tunnel ≠ none := by
      rw [queryMessage, LargeMessage.of, if_pos tunneled]
      exact Option.some_ne_none _
    rw [LargeMessage.replyPayload, cut, valueRoom, if_pos tunneled]
    split
    · contradiction
    · rw [read]
      show Except.ok (((value ++ padding).take (payloadLimit - TunnelHeader.bytes)).take header.size.toNat) = _
      rw [announced, List.take_take, Nat.min_comm, ← List.take_take, List.take_left]
  · have bare : (framedReply parameter value padding).take payloadLimit = value := by
      rw [framedReply, if_neg tunneled, List.take_of_length_le (by omega)]
    have second : (queryMessage target parameter capacity).tunnel = none := by
      rw [queryMessage, LargeMessage.of, if_neg tunneled]
    have announced : (queryMessage target parameter capacity).header.dataSize.toNat = capacity := by
      rw [queryMessage, (LargeMessage.of_direct tunneled _ _ _ _).1, MessageHeader.toNat_dataSize,
        Nat.min_eq_left asked]
    rw [LargeMessage.replyPayload, bare, second, valueRoom, if_neg tunneled]
    show Except.ok (value.take _) = _
    rw [announced, List.take_of_length_le fits, List.take_of_length_le (by omega)]

variable {δ α : Type} {entries : ControlEntries} {device : ControlDevice δ} {state awake : δ} {stats : AccessStats}

/-- What succeeds while the core is awake succeeds, whatever comes of the sleep vote. -/
theorem whileAwake_ok {action : Action Fault (CountedDevice δ) α} {returned : α} {served : CountedDevice δ}
    (woke : device.write entries.power.path (entries.power.vote "wake") state = .ok () awake)
    (did : action ⟨awake, stats⟩ = .ok returned served) :
    ∃ after, entries.power.whileAwake (counted device) action ⟨state, stats⟩ = .ok returned ⟨after, served.stats⟩ := by
  have voted : entries.power.wake (counted device) ⟨state, stats⟩ = .ok () ⟨awake, stats⟩ := wake_ok woke
  have outcome : (action.attempt : Action Fault (CountedDevice δ) _) ⟨awake, stats⟩ = .ok (.ok returned) served := by
    rw [Action.attempt, did]
  have votedBack : ∃ vote after,
      ((entries.power.sleep (counted device)).attempt : Action Fault (CountedDevice δ) _) served =
        .ok vote ⟨after, served.stats⟩ := by
    simp only [CorePower.sleep, CorePower.cast, counted, onDevice, Action.mapError, Action.onPart, Action.attempt]
    cases device.write entries.power.path (entries.power.vote "sleep") served.device <;> exact ⟨_, _, rfl⟩
  obtain ⟨vote, after, votedBack⟩ := votedBack
  refine ⟨after, ?_⟩
  rw [CorePower.whileAwake, Action.bind_of_ok voted, Action.bind_of_ok outcome, Action.bind_of_ok votedBack]
  rfl

/-- A driver that holds a value and answers the request with as much of it as it is asked for. -/
theorem query_held (asked : capacity ≤ payloadLimit) (fits : value.length ≤ capacity)
    (woke : device.write entries.power.path (entries.power.vote "wake") state = .ok () awake)
    (answers : ∀ room, ∃ served,
      device.read entries.control (queryMessage target parameter capacity).encode room awake =
        .ok ((framedReply parameter value padding).take room) served) (stats : AccessStats) :
    ∃ after, query entries device target parameter capacity ⟨state, stats⟩ =
      .ok (value.take (valueRoom parameter)) ⟨after, stats.recordQuery (value.take (valueRoom parameter)).length⟩ := by
  obtain ⟨served, answered⟩ := answers payloadLimit
  let finished : CountedDevice δ := ⟨served, stats.recordQuery (value.take (valueRoom parameter)).length⟩
  show ∃ after, query entries device target parameter capacity ⟨state, stats⟩ =
    .ok (value.take (valueRoom parameter)) ⟨after, finished.stats⟩
  refine whileAwake_ok woke ?_
  have asking : ((onDevice (device.read entries.control (queryMessage target parameter capacity).encode
      payloadLimit)).attempt : Action Fault (CountedDevice δ) _) ⟨awake, stats⟩ =
        .ok (.ok ((framedReply parameter value padding).take payloadLimit)) ⟨served, stats⟩ := by
    simp only [Action.attempt, onDevice, Action.onPart, answered]
  rw [Action.bind_of_ok asking]
  dsimp only
  rw [replyPayload_framed asked fits]
  rfl

/-- A value that a driver holds is returned when it fits behind its framing; of a longer one, which is
always tunneled, the last bytes are lost although the access succeeds. -/
theorem query_returns_value_iff (asked : capacity ≤ payloadLimit) (fits : value.length ≤ capacity)
    (woke : device.write entries.power.path (entries.power.vote "wake") state = .ok () awake)
    (answers : ∀ room, ∃ served,
      device.read entries.control (queryMessage target parameter capacity).encode room awake =
        .ok ((framedReply parameter value padding).take room) served) :
    ∃ returned after,
      query entries device target parameter capacity ⟨state, stats⟩ =
        .ok returned ⟨after, stats.recordQuery returned.length⟩ ∧
      returned = value.take (valueRoom parameter) ∧
      (returned = value ↔ needsTunnel parameter.raw = false ∨ value.length + TunnelHeader.bytes ≤ payloadLimit) := by
  obtain ⟨after, ran⟩ := query_held asked fits woke answers stats
  refine ⟨value.take (valueRoom parameter), after, ran, rfl, ?_⟩
  have limit : payloadLimit = 4096 := rfl
  have header : TunnelHeader.bytes = 8 := rfl
  rw [List.take_eq_self_iff, valueRoom]
  cases needsTunnel parameter.raw
  · simp only [Bool.false_eq_true, if_false, true_or, iff_true]
    omega
  · simp only [if_true, Bool.true_eq_false, false_or]
    omega

/-- A driver that holds one value and takes every vote. -/
def holding (parameter : ParameterId) (value padding : List UInt8) : ControlDevice Unit where
  read _ _ room := pure ((framedReply parameter value padding).take room)
  write _ _ := pure ()

theorem holding_answers (parameter : ParameterId) (value padding request : List UInt8) (path : String) :
    ∀ room, ∃ served, (holding parameter value padding).read path request room () =
      .ok ((framedReply parameter value padding).take room) served :=
  fun _ => ⟨(), rfl⟩

/-- The longest value that fits behind a second header. -/
theorem query_returns_longest :
    let value := List.replicate 4088 0xAB
    value.length ≤ 4096 ∧ ∃ after, query .standard (holding ⟨7⟩ value [0, 0]) ⟨0, 0⟩ ⟨7⟩ 4096 ⟨(), .zero⟩ =
      .ok value ⟨after, AccessStats.zero.recordQuery 4088⟩ := by
  have length : (List.replicate 4088 (0xAB : UInt8)).length = 4088 := List.length_replicate
  have fits : (List.replicate 4088 (0xAB : UInt8)).length ≤ 4096 := by rw [length]; decide
  obtain ⟨returned, after, ran, -, whole⟩ : ∃ returned after,
      query .standard (holding ⟨7⟩ (List.replicate 4088 0xAB) [0, 0]) ⟨0, 0⟩ ⟨7⟩ 4096 ⟨(), .zero⟩ =
          .ok returned ⟨after, AccessStats.zero.recordQuery returned.length⟩ ∧ _ ∧ _ :=
    query_returns_value_iff (Nat.le_refl _) fits rfl (holding_answers ⟨7⟩ _ [0, 0] _ _)
  rw [whole.mpr (.inr (by rw [length]; decide)), length] at ran
  exact ⟨fits, after, ran⟩

/-- A tunneled value of as many bytes as one access carries comes back without its last eight. -/
theorem query_cuts_tunneled_value :
    let value := List.replicate 4096 0xAB
    ∃ returned after, query .standard (holding ⟨7⟩ value []) ⟨0, 0⟩ ⟨7⟩ 4096 ⟨(), .zero⟩ = .ok returned after ∧
      returned.length = 4088 := by
  have fits : (List.replicate 4096 (0xAB : UInt8)).length ≤ 4096 := Nat.le_of_eq List.length_replicate
  obtain ⟨after, ran⟩ := query_held (Nat.le_refl _) fits rfl (holding_answers ⟨7⟩ _ [] _ _) .zero
  refine ⟨_, _, ran, ?_⟩
  rw [List.length_take, List.length_replicate]
  rfl

end DebugFs

end DspInspector

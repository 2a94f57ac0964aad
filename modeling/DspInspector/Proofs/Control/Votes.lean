import DspInspector.Proofs.Control.Calls
import DspInspector.Proofs.Control.Requests
import Mathlib.Data.List.Forall2

/-!
# Wake votes and sleep votes

A core only goes to sleep when every wake vote that the device took has been followed by a sleep vote. Each call
leaves one round on the record of the device (`Round`), and no request can be mistaken for a vote, so the votes of
any number of calls add up (`votes_paired`).
-/

namespace DspInspector

namespace Text

/-- The loop that lists the bytes of an array has those in front of its place already. -/
theorem toList_loop (bytes : ByteArray) (place : Nat) (before : List UInt8) :
    ByteArray.toList.loop bytes place before = before.reverse ++ bytes.data.toList.drop place := by
  fun_induction ByteArray.toList.loop bytes place before with
  | case1 place before inside ih =>
    have next : bytes.data.toList.drop place = bytes.get! place :: bytes.data.toList.drop (place + 1) := by
      rw [List.drop_eq_getElem_cons (by simpa using inside)]
      simp [ByteArray.get!, getElem!_pos, inside]
    rw [ih, next, List.reverse_cons, List.append_assoc, List.singleton_append]
  | case2 place before beyond =>
    rw [List.drop_of_length_le (by simpa using beyond), List.append_nil]

theorem utf8_eq (text : String) : utf8 text = text.toByteArray.data.toList := by
  simp [utf8, ByteArray.toList, toList_loop]

theorem utf8_append (one two : String) : utf8 (one ++ two) = utf8 one ++ utf8 two := by
  simp [utf8_eq, String.toByteArray_append]

end Text

namespace DebugFs

variable {δ : Type} {entries : ControlEntries}

/-! ## Votes are no requests -/

/-- A vote begins with its verb. -/
theorem getElem?_vote {verb : String} {place : Nat} (inside : place < (Text.utf8 verb).length) (power : CorePower) :
    (power.vote verb)[place]? = (Text.utf8 verb)[place]? := by
  have spelled : power.vote verb = Text.utf8 verb ++ Text.utf8 (" " ++ toString power.coreId.toNat) := by
    rw [← Text.utf8_append, ← String.append_assoc]
    rfl
  rw [spelled, List.getElem?_append_left inside]

theorem utf8_wake : Text.utf8 "wake" = [0x77, 0x61, 0x6B, 0x65] := by
  rw [Text.utf8_eq]
  rfl

theorem utf8_sleep : Text.utf8 "sleep" = [0x73, 0x6C, 0x65, 0x65, 0x70] := by
  rw [Text.utf8_eq]
  rfl

theorem wakeVote_ne_sleepVote (entries : ControlEntries) : entries.wakeVote ≠ entries.sleepVote := by
  intro same
  have requests : entries.power.vote "wake" = entries.power.vote "sleep" := by
    simpa [ControlEntries.wakeVote, ControlEntries.sleepVote] using same
  have first := congrArg (·[0]?) requests
  simp only [getElem?_vote (by rw [utf8_wake]; decide : 0 < _), getElem?_vote (by rw [utf8_sleep]; decide : 0 < _),
    utf8_wake, utf8_sleep] at first
  exact absurd first (by decide)

/-- A request says its size first, which is small, so its third byte is zero. -/
theorem configureRequest_third (target : InstanceId) (parameter : ParameterId) (payload : List UInt8) :
    (configureRequest target parameter payload)[2]? = some 0 := by
  have sized : ∃ size ≤ payloadLimit, ∃ rest,
      configureRequest target parameter payload = littleEndian 4 size ++ rest := by
    unfold configureRequest
    split
    · exact ⟨8, by decide, _, ShortMessage.encode_eq _⟩
    · exact ⟨_, Nat.min_le_right _ _, _, LargeMessage.encode_eq _⟩
  obtain ⟨size, small, rest, request⟩ := sized
  have limit : payloadLimit = 4096 := rfl
  have zero : size / 256 / 256 % 256 = 0 := by omega
  simp [request, littleEndian, zero]

theorem access_ne_vote {verb : String} {letter : UInt8} (spells : (Text.utf8 verb)[2]? = some letter)
    (other : letter ≠ 0) (call : Call) :
    call.access entries ≠ .write entries.power.path (entries.power.vote verb) := by
  cases call with
  | query => nofun
  | configure target parameter payload =>
    intro same
    obtain ⟨-, request⟩ := DeviceAccess.write.inj same
    have third := configureRequest_third target parameter payload
    rw [request, getElem?_vote (List.getElem?_eq_some_iff.mp spells).1, spells, Option.some.injEq] at third
    exact other third

theorem access_ne_wakeVote (call : Call) : call.access entries ≠ entries.wakeVote :=
  access_ne_vote (by rw [utf8_wake]; rfl) (by decide) call

theorem access_ne_sleepVote (call : Call) : call.access entries ≠ entries.sleepVote :=
  access_ne_vote (by rw [utf8_sleep]; rfl) (by decide) call

/-! ## Rounds -/

/-- What a call puts on the record: a wake vote that was refused, or one access between two votes. -/
def Round (entries : ControlEntries) (answer : Answer) (added : List Attempt) : Prop :=
  if answer.unwoken then added = [⟨entries.wakeVote, false⟩] else Visit entries (answer.call.access entries) added

/-- In a round, one sleep vote is cast for a wake vote that was taken, and none for another. -/
theorem Round.balanced {answer : Answer} {added : List Attempt} (round : Round entries answer added) :
    added.count ⟨entries.wakeVote, true⟩ = added.countP (·.access = entries.sleepVote) := by
  have votes := wakeVote_ne_sleepVote entries
  have wake : answer.call.access entries ≠ entries.wakeVote := access_ne_wakeVote answer.call
  have sleep : answer.call.access entries ≠ entries.sleepVote := access_ne_sleepVote answer.call
  unfold Round at round
  split at round
  · rw [round]
    simp [votes]
  · obtain ⟨taken, asleep, rfl⟩ := round
    simp [votes, votes.symm, wake, sleep]

variable {device : ControlDevice δ} {state : CountedDevice (Recording δ)}

theorem adds_visit {access : DeviceAccess} {taken : Bool} {served : Recording δ} {stats : AccessStats}
    (noted : served.attempts = state.device.attempts ++ [⟨entries.wakeVote, true⟩] ++ [⟨access, taken⟩]) :
    Adds (Visit entries access) state (slept entries device.recorded ⟨served, stats⟩) := by
  have voted : ∃ asleep, (slept entries device.recorded ⟨served, stats⟩).device.attempts =
      served.attempts ++ [⟨entries.sleepVote, asleep⟩] := by
    simp only [slept, ControlDevice.recorded, Recording.noting, Action.run]
    cases device.write entries.power.path (entries.power.vote "sleep") served.device with
    | ok value after => exact ⟨true, rfl⟩
    | error cause after => exact ⟨false, rfl⟩
  obtain ⟨asleep, voted⟩ := voted
  refine ⟨_, ⟨taken, asleep, rfl⟩, ?_⟩
  rw [voted, noted, List.append_assoc, List.append_assoc]
  rfl

/-- Every call is a round at the device. -/
theorem round_perform (call : Call) (state : CountedDevice (Recording δ)) :
    Adds (Round entries ⟨call, ((call.perform entries device.recorded).run state).1⟩) state
      ((call.perform entries device.recorded).run state).2 := by
  have woken : ∀ {answer : Answer} {after : CountedDevice (Recording δ)}, answer.unwoken = false →
      Adds (Visit entries (answer.call.access entries)) state after → Adds (Round entries answer) state after := by
    intro answer after woke ⟨added, visit, attempts⟩
    refine ⟨added, ?_, attempts⟩
    rwa [Round, woke, if_neg (by decide)]
  refine Action.yields_iff_run (motive := fun result after => Adds (Round entries ⟨call, result⟩) state after).mp ?_
  cases call with
  | query target parameter capacity =>
    rw [Call.perform, yields_query, ControlDevice.recorded, Recording.yields_noting]
    refine Action.yields_of_forall (fun _ awake => ?_) fun _ _ => ⟨_, rfl, rfl⟩
    rw [Recording.yields_noting]
    refine Action.yields_of_forall (fun reply served => ?_) fun _ _ => woken rfl (adds_visit rfl)
    cases (queryMessage target parameter capacity).replyPayload reply with
    | ok payload => exact woken rfl (adds_visit rfl)
    | error cause => exact woken rfl (adds_visit rfl)
  | configure target parameter payload =>
    rw [Call.perform, Action.yields_bind, yields_configure, ControlDevice.recorded, Recording.yields_noting]
    refine Action.yields_of_forall (fun _ awake => ?_) fun _ _ => ⟨_, rfl, rfl⟩
    rw [Recording.yields_noting]
    exact Action.yields_of_forall (fun _ _ => woken rfl (adds_visit rfl)) fun _ _ => woken rfl (adds_visit rfl)

theorem rounds_performAll (entries : ControlEntries) (device : ControlDevice δ) (calls : List Call) :
    ∀ state : CountedDevice (Recording δ), ∃ rounds,
      List.Forall₂ (Round entries) (performAll entries device.recorded calls state).1 rounds ∧
      (performAll entries device.recorded calls state).2.device.attempts = state.device.attempts ++ rounds.flatten := by
  induction calls with
  | nil => exact fun state => ⟨[], .nil, (List.append_nil _).symm⟩
  | cons call calls ih =>
    intro state
    have first : Adds (Round entries ⟨call, ((call.perform entries device.recorded).run state).1⟩) state
        ((call.perform entries device.recorded).run state).2 := round_perform call state
    obtain ⟨added, round, between⟩ := first
    obtain ⟨rounds, others, last⟩ := ih ((call.perform entries device.recorded).run state).2
    refine ⟨added :: rounds, .cons round others, ?_⟩
    rw [List.flatten_cons, ← List.append_assoc, ← between]
    exact last

theorem balanced_flatten {answers : List Answer} {rounds : List (List Attempt)}
    (each : List.Forall₂ (Round entries) answers rounds) :
    rounds.flatten.count ⟨entries.wakeVote, true⟩ = rounds.flatten.countP (·.access = entries.sleepVote) := by
  induction each with
  | nil => rfl
  | cons round _ ih => rw [List.flatten_cons, List.count_append, List.countP_append, round.balanced, ih]

/-- Whatever a device does and whatever the calls come to, the record is one round for each call, in order, and as
many sleep votes were cast as wake votes were taken. -/
theorem votes_paired (entries : ControlEntries) (device : ControlDevice δ) (calls : List Call) (state : δ)
    (stats : AccessStats) :
    let (answers, after) := performAll entries device.recorded calls ⟨⟨state, []⟩, stats⟩
    answers.map Answer.call = calls ∧
      (∃ rounds, List.Forall₂ (Round entries) answers rounds ∧ after.device.attempts = rounds.flatten) ∧
      after.device.attempts.count ⟨entries.wakeVote, true⟩ =
        after.device.attempts.countP (·.access = entries.sleepVote) := by
  obtain ⟨rounds, each, attempts⟩ := rounds_performAll entries device calls ⟨⟨state, []⟩, stats⟩
  refine ⟨calls_performAll entries device.recorded calls _, ⟨rounds, each, attempts⟩, ?_⟩
  rw [attempts]
  exact balanced_flatten each

end DebugFs

end DspInspector

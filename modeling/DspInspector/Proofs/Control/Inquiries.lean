import DspInspector.Proofs.Control.Questions
import DspInspector.Proofs.Control.Transcripts

/-!
# What was asked

A transcript has the bytes that came back. An `Inquiry` is a question with the outcome that these bytes have for it, so
that a transcript can be read as a list of inquiries. `Asks` says of an action which inquiries it makes when it
succeeds and which when it fails, and is worked out along the text of the action.
-/

namespace DspInspector

variable {σ α β : Type}

/-- A question that was put, and its outcome. -/
structure Inquiry where
  question : Question
  outcome : Except Fault question.layout.Value

/-- The outcome of a question, by what came back. -/
def Question.outcome (limits : Limits) (question : Question) :
    Except Fault (List UInt8) → Except Fault question.layout.Value
  | .ok reply => question.judge limits reply
  | .error cause => .error (.inContext question.context cause)

/-- The exchange is the one that an inquiry leaves in a transcript. -/
structure Inquiry.Leaves (limits : Limits) (inquiry : Inquiry) (exchange : Exchange) : Prop where
  target : exchange.target = inquiry.question.target
  parameter : exchange.parameter = inquiry.question.parameter
  capacity : exchange.capacity = inquiry.question.room limits
  outcome : inquiry.outcome = inquiry.question.outcome limits exchange.reply

/-- Between two moments, these inquiries were made and nothing else was read. -/
def Transcript.Grows (limits : Limits) (before after : Transcript σ) (inquiries : List Inquiry) : Prop :=
  ∃ added, after.exchanges = before.exchanges ++ added ∧ List.Forall₂ (Inquiry.Leaves limits) inquiries added

namespace Transcript

variable {limits : Limits} {before between after : Transcript σ} {early late : List Inquiry}

theorem grows_nothing (limits : Limits) (transcript : Transcript σ) : Grows limits transcript transcript [] :=
  ⟨[], (List.append_nil _).symm, .nil⟩

theorem Grows.trans (first : Grows limits before between early) (second : Grows limits between after late) :
    Grows limits before after (early ++ late) := by
  obtain ⟨added, grown, left⟩ := first
  obtain ⟨added', grown', left'⟩ := second
  exact ⟨added ++ added', by rw [grown', grown, List.append_assoc], List.rel_append left left'⟩

end Transcript

open Transcript

/-- The action does to the state what the original does, and the inquiries it makes are as said for its outcome. -/
def Asks (limits : Limits) (action : Action Fault (Transcript σ) α) (original : Action Fault σ α)
    (done : α → List Inquiry → Prop) (failed : Fault → List Inquiry → Prop) : Prop :=
  ∀ transcript, action.Yields transcript
    (fun value after => original transcript.state = .ok value after.state ∧
      ∃ inquiries, Grows limits transcript after inquiries ∧ done value inquiries)
    (fun cause after => original transcript.state = .error cause after.state ∧
      ∃ inquiries, Grows limits transcript after inquiries ∧ failed cause inquiries)

section Steps

variable {limits : Limits} {action : Action Fault (Transcript σ) α} {original : Action Fault σ α}
  {done done' : α → List Inquiry → Prop} {failed failed' : Fault → List Inquiry → Prop}

theorem Asks.mono (asks : Asks limits action original done failed)
    (onDone : ∀ value inquiries, done value inquiries → done' value inquiries)
    (onFailed : ∀ cause inquiries, failed cause inquiries → failed' cause inquiries) :
    Asks limits action original done' failed' := by
  intro transcript
  refine (asks transcript).mono (fun value after reached => ?_) fun cause after reached => ?_
  · obtain ⟨ran, inquiries, grown, told⟩ := reached
    exact ⟨ran, inquiries, grown, onDone value inquiries told⟩
  · obtain ⟨ran, inquiries, grown, told⟩ := reached
    exact ⟨ran, inquiries, grown, onFailed cause inquiries told⟩

theorem asks_pure (limits : Limits) (value : α) :
    Asks limits (pure value : Action Fault (Transcript σ) α) (pure value)
      (fun result inquiries => result = value ∧ inquiries = []) fun _ _ => False := by
  intro transcript
  exact ⟨rfl, [], grows_nothing limits transcript, rfl, rfl⟩

theorem asks_throw (limits : Limits) (cause : Fault) :
    Asks limits (throw cause : Action Fault (Transcript σ) α) (throw cause) (fun _ _ => False)
      fun result inquiries => result = cause ∧ inquiries = [] := by
  intro transcript
  exact ⟨rfl, [], grows_nothing limits transcript, rfl, rfl⟩

theorem asks_ofExcept (limits : Limits) (result : Except Fault α) :
    Asks limits (Action.ofExcept result : Action Fault (Transcript σ) α) (Action.ofExcept result)
      (fun value inquiries => result = .ok value ∧ inquiries = [])
      fun cause inquiries => result = .error cause ∧ inquiries = [] := by
  intro transcript
  cases result with
  | ok value => exact ⟨rfl, [], grows_nothing limits transcript, rfl, rfl⟩
  | error cause => exact ⟨rfl, [], grows_nothing limits transcript, rfl, rfl⟩

theorem Asks.mapError (asks : Asks limits action original done failed) (change : Fault → Fault) :
    Asks limits (action.mapError change) (original.mapError change) done
      fun cause inquiries => ∃ reason, cause = change reason ∧ failed reason inquiries := by
  intro transcript
  rw [Action.yields_mapError]
  refine (asks transcript).mono (fun value after reached => ?_) fun reason after reached => ?_
  · exact ⟨Action.mapError_of_ok reached.1, reached.2⟩
  · obtain ⟨ran, inquiries, grown, told⟩ := reached
    exact ⟨Action.mapError_of_error ran, inquiries, grown, reason, rfl, told⟩

/-- An action that is attempted cannot fail. -/
theorem Asks.attempt (asks : Asks limits action original done failed) :
    Asks limits (action.attempt : Action Fault (Transcript σ) (Except Fault α)) original.attempt
      (fun result inquiries => match result with
        | .ok value => done value inquiries
        | .error cause => failed cause inquiries)
      fun _ _ => False := by
  intro transcript
  rw [Action.yields_attempt]
  refine (asks transcript).mono (fun value after reached => ?_) fun cause after reached => ?_
  · exact ⟨by rw [Action.attempt, reached.1], reached.2⟩
  · exact ⟨by rw [Action.attempt, reached.1], reached.2⟩

/-- A sequence asks what its first action asks, and what the second one does if the first succeeds. -/
theorem Asks.bind {next : α → Action Fault (Transcript σ) β} {originalNext : α → Action Fault σ β}
    {done' : α → β → List Inquiry → Prop} {failed' : α → Fault → List Inquiry → Prop}
    (first : Asks limits action original done failed)
    (second : ∀ value, Asks limits (next value) (originalNext value) (done' value) (failed' value)) :
    Asks limits (action >>= next) (original >>= originalNext)
      (fun result inquiries => ∃ value early late,
        done value early ∧ done' value result late ∧ inquiries = early ++ late)
      fun cause inquiries => failed cause inquiries ∨ ∃ value early late,
        done value early ∧ failed' value cause late ∧ inquiries = early ++ late := by
  intro transcript
  rw [Action.yields_bind]
  refine (first transcript).mono (fun value between reached => ?_) fun cause after reached => ?_
  · obtain ⟨ran, early, grown, told⟩ := reached
    refine (second value between).mono (fun result after reached => ?_) fun cause after reached => ?_
    · obtain ⟨ranNext, late, grownNext, toldNext⟩ := reached
      exact ⟨(Action.bind_of_ok ran).trans ranNext, early ++ late, grown.trans grownNext,
        value, early, late, told, toldNext, rfl⟩
    · obtain ⟨ranNext, late, grownNext, toldNext⟩ := reached
      exact ⟨(Action.bind_of_ok ran).trans ranNext, early ++ late, grown.trans grownNext,
        .inr ⟨value, early, late, told, toldNext, rfl⟩⟩
  · obtain ⟨ran, inquiries, grown, told⟩ := reached
    exact ⟨Action.bind_of_error ran, inquiries, grown, .inl told⟩

/-- What an action asks, by its outcome, read off a transcript of it alone. -/
theorem Asks.run {told : Except Fault α → List Inquiry → Prop}
    (asks : Asks limits action original (fun value => told (.ok value)) fun cause => told (.error cause)) (state : σ) :
    let ran := action.run ⟨state, []⟩
    ran.1 = (original.run state).1 ∧ ran.2.state = (original.run state).2 ∧
      ∃ inquiries, List.Forall₂ (Inquiry.Leaves limits) inquiries ran.2.exchanges ∧ told ran.1 inquiries := by
  have asked := asks ⟨state, []⟩
  unfold Action.run
  cases ran : action ⟨state, []⟩ with
  | ok value after =>
    obtain ⟨original, inquiries, ⟨added, grown, left⟩, reached⟩ := asked.of_ok ran
    rw [original]
    obtain rfl : after.exchanges = added := grown
    exact ⟨rfl, rfl, inquiries, left, reached⟩
  | error cause after =>
    obtain ⟨original, inquiries, ⟨added, grown, left⟩, reached⟩ := asked.of_error ran
    rw [original]
    obtain rfl : after.exchanges = added := grown
    exact ⟨rfl, rfl, inquiries, left, reached⟩

end Steps

/-! ## Questions -/

section Questions

variable (connection : Connection) (transport : Transport σ)

/-- A question that can be put is one inquiry, and its outcome is that of the inquiry. -/
theorem asks_put (question : Question) (addressable : question.Addressable)
    (fits : question = .measurements → connection.limits.instances.toNat + connection.limits.cores.toNat < 2 ^ 32) :
    Asks connection.limits (question.put connection transport.transcribed) (question.put connection transport)
      (fun value inquiries => inquiries = [⟨question, .ok value⟩])
      fun cause inquiries => inquiries = [⟨question, .error cause⟩] := by
  intro transcript
  have leaves {reply : Except Fault (List UInt8)} {outcome : Except Fault question.layout.Value}
      (judged : question.outcome connection.limits reply = outcome) :
      Inquiry.Leaves connection.limits ⟨question, outcome⟩
        ⟨question.target, question.parameter, question.room connection.limits, reply⟩ := ⟨rfl, rfl, rfl, judged.symm⟩
  unfold Action.Yields
  rw [Question.put_apply connection transport.transcribed addressable fits,
    Question.put_apply connection transport addressable fits]
  simp only [Transport.transcribed, Transcript.noting]
  cases transport.query question.target question.parameter (question.room connection.limits) transcript.state with
  | error cause after => exact ⟨rfl, _, ⟨_, rfl, .cons (leaves rfl) .nil⟩, rfl⟩
  | ok reply after =>
    dsimp only
    cases judged : question.judge connection.limits reply with
    | ok value => exact ⟨rfl, _, ⟨_, rfl, .cons (leaves judged) .nil⟩, rfl⟩
    | error cause => exact ⟨rfl, _, ⟨_, rfl, .cons (leaves judged) .nil⟩, rfl⟩

/-- A question that is attempted is one inquiry, whatever comes back. -/
theorem asks_attempt (question : Question) (addressable : question.Addressable)
    (fits : question = .measurements → connection.limits.instances.toNat + connection.limits.cores.toNat < 2 ^ 32) :
    Asks connection.limits
      ((question.put connection transport.transcribed).attempt :
        Action Fault (Transcript σ) (Except Fault question.layout.Value))
      (question.put connection transport).attempt
      (fun outcome inquiries => inquiries = [⟨question, outcome⟩]) fun _ _ => False := by
  refine (asks_put connection transport question addressable fits).attempt.mono ?_ nofun
  rintro (cause | value) _ told
  · exact told
  · exact told

/-- A question for an object that has no number of twenty-four bits is not put. -/
theorem asks_askObject_refused (limits : Limits) [Wire α] (parameter : BaseParameter) {object : UInt32}
    (large : 2 ^ 24 ≤ object.toNat) :
    Asks limits (Connection.askObject α transport.transcribed parameter object)
      (Connection.askObject α transport parameter object) (fun _ _ => False)
      fun cause inquiries => cause = .argument (.parameterSubId object) ∧ inquiries = [] := by
  have refused : ParameterId.extended (Enumeration.coding parameter).code object = .error (.parameterSubId object) := by
    have exceeds : object ≥ 0x1000000 := UInt32.le_iff_toNat_le.mpr large
    rw [ParameterId.extended, if_pos exceeds]
    cases parameter <;> rfl
  rw [Connection.askObject, Connection.askObject, refused]
  exact asks_throw limits _

end Questions

end DspInspector

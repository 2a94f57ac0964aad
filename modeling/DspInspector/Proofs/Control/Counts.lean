import DspInspector.Proofs.Control.Calls
import Mathlib.Algebra.Ring.Nat

/-!
# What the counts say

Each call that gets past its wake vote is counted once, by what came of it (`counts_of_calls`). A refused wake vote
makes the call fail too, but leaves every count as it is (`refused_wake_uncounted`), so the counts add up to the number
of calls only where no wake vote was refused.
-/

namespace DspInspector.DebugFs

namespace Answer

/-- A parameter was read. -/
def wasRead (answer : Answer) : Bool :=
  match answer.call, answer.result with
  | .query .., .ok _ => true
  | _, _ => false

/-- A parameter was written. -/
def wasWritten (answer : Answer) : Bool :=
  match answer.call, answer.result with
  | .configure .., .ok _ => true
  | _, _ => false

/-- The call returned an error. -/
def failed (answer : Answer) : Bool := !answer.result.isOk

/-- The bytes that were returned. -/
def payload (answer : Answer) : List UInt8 := answer.result.toOption.getD []

end Answer

/-- The counts when some answers are counted on top of them, those to calls with a refused wake vote left out. -/
def counting (stats : AccessStats) (answers : List Answer) : AccessStats where
  queries := stats.queries + answers.countP Answer.wasRead
  configures := stats.configures + answers.countP Answer.wasWritten
  failures := stats.failures + answers.countP fun answer => answer.failed && !answer.unwoken
  bytesReceived := stats.bytesReceived + (answers.map fun answer => answer.payload.length).sum

theorem counting_cons (stats : AccessStats) (answer : Answer) (answers : List Answer) :
    counting (counting stats [answer]) answers = counting stats (answer :: answers) := by
  simp only [counting, List.countP_cons, List.countP_nil, List.map_cons, List.map_nil, List.sum_cons, List.sum_nil,
    AccessStats.mk.injEq]
  omega

/-- An answer is a parameter read, a parameter written, a failure behind the wake vote or one at it. -/
theorem Answer.kinds (answer : Answer) :
    (answer.wasRead, answer.wasWritten, answer.failed, answer.unwoken) ∈
      [(true, false, false, false), (false, true, false, false), (false, false, true, false),
        (false, false, true, true)] := by
  obtain ⟨call, result⟩ := answer
  cases call <;> cases result <;> simp [wasRead, wasWritten, failed, Answer.unwoken, Except.isOk, Except.toBool]

theorem countP_failed (answers : List Answer) :
    (answers.countP fun answer => answer.failed && !answer.unwoken) + answers.countP Answer.unwoken =
        answers.countP Answer.failed ∧
      answers.countP Answer.wasRead + answers.countP Answer.wasWritten + answers.countP Answer.failed =
        answers.length := by
  induction answers with
  | nil => exact ⟨rfl, rfl⟩
  | cons answer answers ih =>
    have kinds := answer.kinds
    simp only [List.mem_cons, List.not_mem_nil, or_false, Prod.mk.injEq] at kinds
    simp only [List.countP_cons, List.length_cons]
    rcases kinds with ⟨r, w, f, u⟩ | ⟨r, w, f, u⟩ | ⟨r, w, f, u⟩ | ⟨r, w, f, u⟩ <;> simp [r, w, f, u] <;> omega

variable {δ : Type} {entries : ControlEntries} {device : ControlDevice δ}

/-- A call is counted by its answer. -/
theorem stats_perform (call : Call) (state : CountedDevice δ) :
    ((call.perform entries device).run state).2.stats =
      counting state.stats [⟨call, ((call.perform entries device).run state).1⟩] := by
  refine Action.yields_iff_run (motive := fun result (after : CountedDevice δ) =>
    after.stats = counting state.stats [⟨call, result⟩]).mp ?_
  cases call with
  | query target parameter capacity =>
    rw [Call.perform, yields_query]
    refine Action.yields_of_forall (fun _ awake => ?_) fun _ _ => rfl
    refine Action.yields_of_forall (fun reply served => ?_) fun _ _ => rfl
    cases (queryMessage target parameter capacity).replyPayload reply <;> rfl
  | configure target parameter payload =>
    rw [Call.perform, Action.yields_bind, yields_configure]
    refine Action.yields_of_forall (fun _ awake => ?_) fun _ _ => rfl
    exact Action.yields_of_forall (fun _ _ => rfl) fun _ _ => rfl

theorem stats_performAll (entries : ControlEntries) (device : ControlDevice δ) (calls : List Call) :
    ∀ state : CountedDevice δ,
      (performAll entries device calls state).2.stats =
        counting state.stats (performAll entries device calls state).1 := by
  induction calls with
  | nil => exact fun _ => rfl
  | cons call calls ih =>
    intro state
    simp only [performAll, ih, stats_perform, counting_cons]

/-- Queries and configurations that succeeded are counted with the bytes that were returned, and so are the failures
behind a wake vote. With the refused wake votes they are all calls. -/
theorem counts_of_calls (entries : ControlEntries) (device : ControlDevice δ) (calls : List Call) (state : δ) :
    let (answers, after) := performAll entries device calls ⟨state, .zero⟩
    answers.map Answer.call = calls ∧
      after.stats.queries = answers.countP Answer.wasRead ∧
      after.stats.configures = answers.countP Answer.wasWritten ∧
      after.stats.bytesReceived = (answers.map fun answer => answer.payload.length).sum ∧
      after.stats.failures + answers.countP Answer.unwoken = answers.countP Answer.failed ∧
      after.stats.queries + after.stats.configures + after.stats.failures + answers.countP Answer.unwoken =
        calls.length := by
  have made := calls_performAll entries device calls ⟨state, .zero⟩
  have counted := stats_performAll entries device calls ⟨state, .zero⟩
  rcases ran : performAll entries device calls ⟨state, .zero⟩ with ⟨answers, after⟩
  rw [ran] at made counted
  obtain ⟨failures, all⟩ := countP_failed answers
  have length : answers.length = calls.length := by rw [← made, List.length_map]
  simp only [counting, AccessStats.zero, Nat.zero_add] at counted
  simp only [counted]
  exact ⟨made, trivial, trivial, trivial, failures, by omega⟩

/-- A device that refuses everything. -/
def refusing : ControlDevice Unit where
  read _ _ _ := throw (.transport (.reported "no more replies"))
  write _ _ := throw (.transport (.reported "denied"))

/-- A call fails and is not counted. -/
theorem refused_wake_uncounted :
    let (answers, after) := performAll .standard refusing [.query ⟨0, 0⟩ ⟨7⟩ 64] ⟨(), .zero⟩
    answers.countP Answer.failed = 1 ∧ after.stats = .zero ∧
      after.stats.queries + after.stats.configures + after.stats.failures ≠ answers.length :=
  ⟨rfl, rfl, Nat.zero_ne_one⟩

end DspInspector.DebugFs

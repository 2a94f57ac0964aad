import DspInspector.Proofs.Probe.Quiet

/-!
# Starting and taking a start back

Whatever is taken through the stages can be put on record: every call, whether it was met, and where the
service really was when a step was asked for (`Staged.onRecord`). On the record of a service that tells the
truth, a start succeeds exactly if every call was met. Otherwise it reports the first call that was not met,
and what follows is the way back to rest (`start_recorded`).
-/

namespace DspInspector

open DspInspector.Action

namespace Staged

variable {σ α β : Type}

/-- A call of the service, with its failure. A step comes with the stage at which the service was. -/
inductive Call where
  | read (failure : Option ProbeError)
  | step (there source target : Stage) (failure : Option ProbeError)
  deriving DecidableEq

namespace Call

def IsRead : Call → Prop
  | .read _ => True
  | .step .. => False

def IsMet : Call → Prop
  | .read failure | .step _ _ _ failure => failure = none

/-- A step is asked for from where the service is, and to the next stage on the way to the goal. -/
def LeadsTo (goal : Goal) : Call → Prop
  | .read _ => True
  | .step there source target _ => there = source ∧ source.next goal = some target

/-- The call was not met, and this is how a walk reports it. -/
inductive Reports : Call → ProbeError → Prop
  | unread (cause : ProbeError) : Reports (.read (some cause)) (.stageRead cause.message)
  | refused (there source target : Stage) (message : String) :
      Reports (.step there source target (some (.driver message))) (.stageWrite message)
  | stuck (there source target : Stage) (cause : ProbeError) (other : ∀ message, cause ≠ .driver message) :
      Reports (.step there source target (some cause)) cause

theorem Reports.not_isMet {call : Call} {cause : ProbeError} (reports : call.Reports cause) : ¬ call.IsMet := by
  cases reports <;> exact Option.some_ne_none _

theorem reports_stepFailure (there source target : Stage) (cause : ProbeError) :
    (Call.step there source target (some cause)).Reports (stepFailure cause) := by
  cases cause with
  | driver message => exact .refused there source target message
  | _ => exact .stuck there source target _ fun _ => ProbeError.noConfusion

end Call

/-! ## The record -/

/-- An action that is put on record when it has ended. -/
def noted (note : σ → Option ProbeError → Call) (action : Action ProbeError σ α) :
    Action ProbeError (σ × List Call) α := fun recorded =>
  match action recorded.1 with
  | .ok value after => .ok value (after, recorded.2 ++ [note recorded.1 none])
  | .error cause after => .error cause (after, recorded.2 ++ [note recorded.1 (some cause)])

/-- The service with a record of its calls. -/
def onRecord (staged : Staged σ) (real : σ → Stage) : Staged (σ × List Call) where
  stage := noted (fun _ => .read) staged.stage
  move source target := noted (fun state => .step (real state) source target) (staged.move source target)

/-- The calls in the course of a start or a stop. -/
def calls (staged : Staged σ) (real : σ → Stage) (active : Bool) (state : σ) : List Call :=
  (((staged.onRecord real).setActive active).run (state, [])).2.2

theorem yields_noted {note : σ → Option ProbeError → Call} {action : Action ProbeError σ α}
    {recorded : σ × List Call} {done : α → σ × List Call → Prop} {failed : ProbeError → σ × List Call → Prop} :
    (noted note action).Yields recorded done failed ↔
      action.Yields recorded.1 (fun value after => done value (after, recorded.2 ++ [note recorded.1 none]))
        (fun cause after => failed cause (after, recorded.2 ++ [note recorded.1 (some cause)])) := by
  cases ran : action recorded.1 <;> simp only [Yields, noted, ran]

/-- The action does what another does, whatever is on record. -/
def Follows {ε : Type} (action : Action ε (σ × List Call) α) (original : Action ε σ α) : Prop :=
  ∀ recorded, action.Yields recorded (fun value after => original recorded.1 = .ok value after.1)
    (fun cause after => original recorded.1 = .error cause after.1)

section Follows

variable {ε ε' : Type} {action : Action ε (σ × List Call) α} {original : Action ε σ α}

theorem follows_noted (note : σ → Option ProbeError → Call) (original : Action ProbeError σ α) :
    Follows (noted note original) original := by
  intro recorded
  rw [yields_noted]
  cases ran : original recorded.1 <;> simp only [Yields, ran]

theorem follows_pure (value : α) : Follows (ε := ε) (σ := σ) (pure value) (pure value) := fun _ => rfl

theorem Follows.bind {next : α → Action ε (σ × List Call) β} {next' : α → Action ε σ β}
    (first : Follows action original) (second : ∀ value, Follows (next value) (next' value)) :
    Follows (action >>= next) (original >>= next') := by
  intro recorded
  rw [yields_bind]
  refine (first recorded).mono (fun value between ran => ?_) (fun cause after ran => bind_of_error ran)
  rw [bind_of_ok ran]
  exact second value between

theorem Follows.mapError (follows : Follows action original) (change : ε → ε') :
    Follows (mapError change action) (mapError change original) := by
  intro recorded
  rw [yields_mapError]
  exact (follows recorded).mono (fun _ _ ran => mapError_of_ok ran) fun _ _ ran => mapError_of_error ran

theorem Follows.attempt (follows : Follows action original) :
    Follows (Action.attempt action : Action ε' _ _) (Action.attempt original) := by
  intro recorded
  rw [yields_attempt]
  refine (follows recorded).mono (fun value after ran => ?_) (fun cause after ran => ?_) <;>
    rw [Action.attempt, ran]

end Follows

variable {staged : Staged σ} {real : σ → Stage}

theorem follows_stage : Follows (staged.onRecord real).stage staged.stage :=
  follows_noted (fun _ => .read) staged.stage

theorem follows_move (source target : Stage) :
    Follows ((staged.onRecord real).move source target) (staged.move source target) :=
  follows_noted (fun state => .step (real state) source target) (staged.move source target)

theorem follows_walkFrom (goal : Goal) (stage : Stage) :
    Follows ((staged.onRecord real).walkFrom goal stage) (staged.walkFrom goal stage) := by
  cases next : stage.next goal with
  | none =>
    rw [walkFrom_of_none next, walkFrom_of_none next]
    exact follows_pure ()
  | some target =>
    rw [walkFrom_of_some next, walkFrom_of_some next]
    exact ((follows_move stage target).mapError stepFailure).bind fun _ => follows_walkFrom goal target
termination_by stage.distance goal
decreasing_by exact Nat.lt_of_succ_le (Nat.le_of_eq (Stage.distance_of_next next))

theorem follows_walk (goal : Goal) : Follows ((staged.onRecord real).walk goal) (staged.walk goal) := by
  unfold walk readStage
  exact (follows_stage.mapError _).bind fun stage => follows_walkFrom goal stage

/-- A start or a stop does on record what it does without. -/
theorem follows_setActive (active : Bool) :
    Follows ((staged.onRecord real).setActive active) (staged.setActive active) := by
  cases active with
  | false => exact follows_walk .rest
  | true =>
    refine (follows_walk .streaming).attempt.bind fun outcome => ?_
    cases outcome with
    | ok => exact follows_pure ()
    | error cause =>
      exact ((follows_walk .rest).attempt.bind fun _ => follows_pure ()).bind fun _ _ => rfl

/-- The record goes along with the state and changes nothing. -/
theorem run_onRecord (staged : Staged σ) (real : σ → Stage) (active : Bool) (state : σ) :
    ((staged.onRecord real).setActive active).run (state, []) =
      (((staged.setActive active).run state).1, ((staged.setActive active).run state).2,
        staged.calls real active state) := by
  have same : Follows ((staged.onRecord real).setActive active) (staged.setActive active) := follows_setActive active
  have follows := same (state, [])
  unfold calls Action.run
  cases ran : (staged.onRecord real).setActive active (state, []) with
  | ok value after => simp only [follows.of_ok ran]
  | error cause after => simp only [follows.of_error ran]

/-! ## Services that tell the truth -/

/-- In sane states the service tells where it is, and a step that succeeds goes where it is meant to go.
Where a step leaves it that fails is not said. -/
structure Truthful (staged : Staged σ) (real : σ → Stage) (sane : σ → Prop) : Prop where
  stage : ∀ state, sane state → staged.stage.Yields state
    (fun stage after => stage = real state ∧ real after = real state ∧ sane after) (fun _ => sane)
  move : ∀ source target state, sane state → (staged.move source target).Yields state
    (fun _ after => real after = target ∧ sane after) (fun _ => sane)

/-- Every call was met on the way to a goal. -/
def Smooth (goal : Goal) (calls : List Call) : Prop := ∀ call ∈ calls, call.IsMet ∧ call.LeadsTo goal

theorem smooth_concat {goal : Goal} {calls : List Call} {call : Call} (smooth : Smooth goal calls)
    (met : call.IsMet) (leads : call.LeadsTo goal) : Smooth goal (calls ++ [call]) :=
  List.forall_mem_append.mpr ⟨smooth, List.forall_mem_singleton.mpr ⟨met, leads⟩⟩

/-- A walk to a goal that broke off at a call and reports it. -/
structure BrokenOff (goal : Goal) (met : List Call) (failed : Call) (cause : ProbeError) : Prop where
  smooth : Smooth goal met
  leads : failed.LeadsTo goal
  reports : failed.Reports cause
  /-- The stage is read once, before everything else. -/
  first : failed.IsRead ↔ met = []

section Walks

variable {sane : σ → Prop}

/-- The calls of a walk are met and lead to the goal, up to the one that is reported. -/
theorem yields_recorded_walk (truthful : staged.Truthful real sane) (goal : Goal) {state : σ} (begins : sane state)
    (log : List Call) :
    ((staged.onRecord real).walk goal).Yields (state, log)
      (fun _ after => sane after.1 ∧ real after.1 = goal.stage ∧ ∃ met, after.2 = log ++ met ∧ Smooth goal met)
      (fun cause after => sane after.1 ∧
        ∃ met failed, after.2 = log ++ (met ++ [failed]) ∧ BrokenOff goal met failed cause) := by
  -- Behind the reading of the stage every call is a step, so only the reading can be the first to fail.
  refine (yields_walk (fun stage (after : σ × List Call) => sane after.1 ∧ real after.1 = stage ∧
    ∃ met, met ≠ [] ∧ after.2 = log ++ met ∧ Smooth goal met) ?_ ?_).mono ?_ fun _ _ stuck => stuck
  · change (noted (fun _ => .read) staged.stage).Yields _ _ _
    refine yields_noted.mpr ((truthful.stage state begins).mono (fun stage after read => ?_)
      fun cause after still => ?_)
    · obtain ⟨rfl, there, still⟩ := read
      exact ⟨still, there, [.read none], List.cons_ne_nil _ _, rfl, List.forall_mem_singleton.mpr ⟨rfl, trivial⟩⟩
    · exact ⟨still, [], .read (some cause), rfl, List.forall_mem_nil _, trivial, .unread cause,
        iff_of_true trivial rfl⟩
  · rintro source target step ⟨state, log'⟩ ⟨still, there, met, begun, isLog, smooth⟩
    subst isLog
    have leads (failure : Option ProbeError) : (Call.step (real state) source target failure).LeadsTo goal :=
      ⟨there, step⟩
    change (noted (fun state => .step (real state) source target) (staged.move source target)).Yields _ _ _
    refine yields_noted.mpr ((truthful.move source target state still).mono (fun _ after reached => ?_)
      fun cause after still => ?_)
    · exact ⟨reached.2, reached.1, met ++ [_], List.concat_ne_nil _ _, List.append_assoc ..,
        smooth_concat smooth rfl (leads none)⟩
    · exact ⟨still, met, _, List.append_assoc .., smooth, leads _, Call.reports_stepFailure ..,
        iff_of_false id begun⟩
  · rintro - after ⟨still, there, met, -, isLog, smooth⟩
    exact ⟨still, there, met, isLog, smooth⟩

/-- A start that succeeds is one smooth walk. One that fails is a walk that broke off, with the way back
behind it. -/
theorem yields_recorded_start (truthful : staged.Truthful real sane) {state : σ} (begins : sane state) :
    ((staged.onRecord real).setActive true).Yields (state, [])
      (fun _ after => real after.1 = .active ∧ Smooth .streaming after.2)
      (fun cause after => ∃ met failed back, after.2 = met ++ failed :: back ∧
        BrokenOff .streaming met failed cause ∧ (∀ call ∈ back, call.LeadsTo .rest) ∧
        ((∀ call ∈ back, call.IsMet) → real after.1 = .idle)) := by
  have start : ((staged.onRecord real).walk .streaming).Yields (state, [])
      (fun _ after => real after.1 = .active ∧ Smooth .streaming after.2)
      (fun cause after => sane after.1 ∧
        ∃ met failed, after.2 = met ++ [failed] ∧ BrokenOff .streaming met failed cause) := by
    refine (yields_recorded_walk truthful .streaming begins []).mono ?_ fun _ _ stuck => stuck
    rintro - after ⟨-, there, met, isMet, smooth⟩
    exact ⟨there, isMet ▸ smooth⟩
  refine yields_setActive start ?_
  rintro cause ⟨halfway, log⟩ ⟨still, met, failed, isStart, broken⟩
  subst isStart
  refine (yields_recorded_walk truthful .rest still (met ++ [failed])).mono ?_ ?_
  · rintro - after ⟨-, there, back, isLog, smooth⟩
    refine ⟨met, failed, back, ?_, broken, fun call member => (smooth call member).2, fun _ => there⟩
    rw [isLog, List.append_assoc, List.singleton_append]
  · rintro other after ⟨-, met', failed', isLog, broken'⟩
    refine ⟨met, failed, met' ++ [failed'], ?_, broken, ?_, fun all => ?_⟩
    · rw [isLog, List.append_assoc, List.singleton_append]
    · exact List.forall_mem_append.mpr ⟨fun call member => (broken'.smooth call member).2,
        List.forall_mem_singleton.mpr broken'.leads⟩
    · exact absurd (all failed' (List.mem_append_right _ (List.mem_singleton_self _))) broken'.reports.not_isMet

/-- Every step of a stop is asked for on the way to rest. -/
theorem leadsTo_rest_of_stop (truthful : staged.Truthful real sane) {state : σ} (begins : sane state) :
    ∀ call ∈ staged.calls real false state, call.LeadsTo .rest := by
  have walk : ((staged.onRecord real).setActive false).Yields (state, [])
      (fun _ after => ∀ call ∈ after.2, call.LeadsTo .rest)
      (fun _ after => ∀ call ∈ after.2, call.LeadsTo .rest) := by
    refine (yields_recorded_walk truthful .rest begins []).mono ?_ ?_
    · rintro - after ⟨-, -, met, isLog, smooth⟩
      rw [isLog]
      exact fun call member => (smooth call member).2
    · rintro cause after ⟨-, met, failed, isLog, broken⟩
      rw [isLog, List.nil_append]
      exact List.forall_mem_append.mpr ⟨fun call member => (broken.smooth call member).2,
        List.forall_mem_singleton.mpr broken.leads⟩
  exact walk.run

end Walks

/-- A start succeeds exactly if every call was met and the service is active then. If it does not, it reports
the call that was not met first, never one of the way back, and after a way back on which every call was met the
service is at rest. Every step, in a start, on the way back and in a stop, is asked for from where the service
is, to a stage next to it. -/
theorem start_recorded {sane : σ → Prop} (truthful : staged.Truthful real sane) {state : σ} (begins : sane state) :
    let outcome := (staged.setActive true).run state
    let calls := staged.calls real true state
    (outcome.1 = .ok () ↔ (∀ call ∈ calls, call.IsMet) ∧ real outcome.2 = .active) ∧
    (outcome.1 = .ok () → ∀ call ∈ calls, call.LeadsTo .streaming) ∧
    (∀ cause, outcome.1 = .error cause → ∃ met failed back, calls = met ++ failed :: back ∧
      BrokenOff .streaming met failed cause ∧ (∀ call ∈ back, call.LeadsTo .rest) ∧
      ((∀ call ∈ back, call.IsMet) → real outcome.2 = .idle)) ∧
    ∀ call ∈ staged.calls real false state, call.LeadsTo .rest := by
  intro outcome calls
  have start := yields_recorded_start truthful begins
  have ran := run_onRecord staged real true state
  change _ = (outcome.1, outcome.2, calls) at ran
  cases succeeds : (staged.onRecord real).setActive true (state, []) with
  | ok value after =>
    simp only [Action.run, succeeds, Prod.mk.injEq] at ran
    obtain ⟨isOk, rfl⟩ := ran
    obtain ⟨there, smooth⟩ := start.of_ok succeeds
    rw [← isOk]
    refine ⟨iff_of_true rfl ⟨fun call member => (smooth call member).1, there⟩,
      fun _ call member => (smooth call member).2, fun _ fails => ?_, leadsTo_rest_of_stop truthful begins⟩
    cases fails
  | error cause after =>
    simp only [Action.run, succeeds, Prod.mk.injEq] at ran
    obtain ⟨isError, rfl⟩ := ran
    obtain ⟨met, failed, back, isCalls, broken, leads, idle⟩ := start.of_error succeeds
    rw [← isError]
    refine ⟨iff_of_false (fun succeeds => ?_) fun all => ?_, fun succeeds => ?_, fun other same => ?_,
      leadsTo_rest_of_stop truthful begins⟩
    · cases succeeds
    · refine broken.reports.not_isMet (all.1 failed ?_)
      change calls = _ at isCalls
      rw [isCalls]
      exact List.mem_append_right _ List.mem_cons_self
    · cases succeeds
    · cases same
      exact ⟨met, failed, back, isCalls, broken, leads, idle⟩

end Staged

namespace Prober

variable {δ : Type} {driver : ProbeDevice δ} {stageOf : δ → Stage}

/-- The prober tells the truth if its driver is honest. -/
theorem truthful_staged (honest : driver.Honest stageOf) :
    (staged driver).Truthful (fun prober => stageOf prober.device) (SinksKeep stageOf) where
  stage prober keep := by
    refine yields_onDevice.mpr ((honest.stage prober.device).mono (fun stage device read => ?_)
      fun cause device kept => ?_)
    · exact ⟨read.1, read.2, keep⟩
    · exact keep
  move source target prober keep := by
    by_cases isActive : target = .active
    · subst isActive
      exact (yields_move_launched honest keep source).mono (fun _ after reached => ⟨reached.1, reached.2.1⟩)
        fun _ after stayed => stayed.2
    · exact (yields_move_halted honest isActive).mono
        (fun _ after reached => ⟨reached.1, reached.2.orderly.sinks⟩) fun _ after halted => halted.orderly.sinks

/-- The driver refuses the last step of a start, and every call on the way back is met. -/
theorem stubborn_start_recorded :
    let prober := afterAll ScriptedProbeDevice.driver (create ScriptedProbeDevice.driver sampleStubborn 64)
      [.configure sampleProbes (.ofList [(1, 2)])]
    let real := fun prober : Prober ScriptedProbeDevice => ScriptedProbeDevice.stageOf prober.device
    let outcome := ((staged ScriptedProbeDevice.driver).setActive true).run prober
    let calls := (staged ScriptedProbeDevice.driver).calls real true prober
    (staged ScriptedProbeDevice.driver).Truthful real (SinksKeep ScriptedProbeDevice.stageOf) ∧
    SinksKeep ScriptedProbeDevice.stageOf prober ∧
    calls = [.read none, .step .idle .idle .owned none, .step .owned .owned .allocated none,
      .step .allocated .allocated .active (some (.driver "busy")),
      .read none, .step .allocated .allocated .owned none, .step .owned .owned .idle none] ∧
    ∃ met failed back, calls = met ++ failed :: back ∧
      Staged.BrokenOff .streaming met failed (.stageWrite "busy") ∧ (∀ call ∈ back, call.LeadsTo .rest) ∧
      ((∀ call ∈ back, call.IsMet) → real outcome.2 = .idle) := by
  intro prober real outcome calls
  have truthful := truthful_staged ScriptedProbeDevice.scripted_honest
  have orderly : Orderly ScriptedProbeDevice.stageOf prober :=
    orderly_afterAll ScriptedProbeDevice.scripted_honest sampleStubborn 64 _
  obtain ⟨-, -, failed, -⟩ := Staged.start_recorded truthful orderly.sinks
  have refused : ((staged ScriptedProbeDevice.driver).setActive true).Yields prober
      (fun _ _ => False) (fun cause _ => cause = .stageWrite "busy") := by
    decide +kernel
  obtain ⟨cause, after, ran, rfl⟩ := refused.exists_error
  refine ⟨truthful, orderly.sinks, ?_, failed (.stageWrite "busy") ?_⟩
  · decide +kernel
  · rw [Action.run, ran]

end Prober

end DspInspector

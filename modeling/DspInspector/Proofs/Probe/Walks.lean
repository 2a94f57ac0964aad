import DspInspector.Probe.Lifecycle
import DspInspector.Proofs.Data.Outcomes

/-!
# Walks through the stages

A walk asks once where the service is and then trusts its own steps. What holds where it begins and is
passed on by every step holds at its goal (`yields_walk`); a start that fails is followed by a walk to
rest, whatever comes of that (`yields_setActive`).
-/

namespace DspInspector

/-- The stage at which a walk ends. -/
def Goal.stage : Goal → Stage
  | .streaming => .active
  | .rest => .idle

theorem Stage.eq_of_next_eq_none {goal : Goal} {stage : Stage} (last : stage.next goal = none) :
    stage = goal.stage := by
  cases goal <;> cases stage <;> first | rfl | cases last

/-- The active stage is entered from the one before only. -/
theorem Stage.allocated_of_next {goal : Goal} {source : Stage} (step : source.next goal = some .active) :
    source = .allocated := by
  cases goal <;> cases source <;> first | rfl | cases step

namespace Staged

variable {σ : Type} {staged : Staged σ} {goal : Goal} {failed : ProbeError → σ → Prop}

theorem walkFrom_of_none {stage : Stage} (last : stage.next goal = none) :
    staged.walkFrom goal stage = pure () := by
  rw [walkFrom]
  split
  · rfl
  · rename_i target step
    rw [last] at step
    cases step

theorem walkFrom_of_some {source target : Stage} (step : source.next goal = some target) :
    staged.walkFrom goal source =
      (Action.mapError stepFailure (staged.move source target) >>= fun _ => staged.walkFrom goal target) := by
  rw [walkFrom]
  split
  · rename_i last
    rw [step] at last
    cases last
  · rename_i target' step'
    rw [step] at step'
    cases step'
    rfl

/-- What every step passes on is passed on to the goal. -/
theorem yields_walkFrom (along : Stage → σ → Prop)
    (step : ∀ {source target : Stage}, source.next goal = some target → ∀ state, along source state →
      (staged.move source target).Yields state (fun _ => along target)
        (fun cause => failed (stepFailure cause)))
    (stage : Stage) (state : σ) (begins : along stage state) :
    (staged.walkFrom goal stage).Yields state (fun _ => along goal.stage) failed := by
  -- By recursion on the distance to the goal, as the walk itself.
  cases next : stage.next goal with
  | none =>
    rw [walkFrom_of_none next, Action.yields_pure]
    exact Stage.eq_of_next_eq_none next ▸ begins
  | some target =>
    rw [walkFrom_of_some next, Action.yields_bind, Action.yields_mapError]
    refine (step next state begins).mono (fun _ after reached => ?_) (fun _ _ fails => fails)
    exact yields_walkFrom along step target after reached
termination_by stage.distance goal
decreasing_by exact Nat.lt_of_succ_le (Nat.le_of_eq (Stage.distance_of_next next))

theorem yields_walk (along : Stage → σ → Prop) {state : σ}
    (read : staged.stage.Yields state along (fun cause => failed (.stageRead cause.message)))
    (step : ∀ {source target : Stage}, source.next goal = some target → ∀ state, along source state →
      (staged.move source target).Yields state (fun _ => along target)
        (fun cause => failed (stepFailure cause))) :
    (staged.walk goal).Yields state (fun _ => along goal.stage) failed := by
  unfold walk readStage
  rw [Action.yields_bind, Action.yields_mapError]
  exact read.mono (fun stage after begins => yields_walkFrom along step stage after begins) (fun _ _ fails => fails)

/-- A start that fails halfway is followed by a walk to rest and then reported. -/
theorem yields_setActive {state : σ} {done : σ → Prop} {halfway : ProbeError → σ → Prop}
    (start : (staged.walk .streaming).Yields state (fun _ => done) halfway)
    (back : ∀ cause after, halfway cause after →
      (staged.walk .rest).Yields after (fun _ => failed cause) (fun _ => failed cause)) :
    (staged.setActive true).Yields state (fun _ => done) failed := by
  unfold setActive stopQuietly stop
  rw [Action.yields_bind, Action.yields_attempt]
  refine start.mono (fun _ _ reached => reached) (fun cause after stuck => ?_)
  simpa using back cause after stuck

/-- What every step preserves, whether it succeeds or not, a start and a stop preserve. -/
theorem yields_setActive_of_preserved {holds : σ → Prop}
    (read : ∀ state, holds state → staged.stage.Yields state (fun _ => holds) (fun _ => holds))
    (step : ∀ source target state, holds state →
      (staged.move source target).Yields state (fun _ => holds) (fun _ => holds))
    (active : Bool) {state : σ} (begins : holds state) :
    (staged.setActive active).Yields state (fun _ => holds) (fun _ => holds) := by
  have walk (goal : Goal) (state : σ) (begins : holds state) :
      (staged.walk goal).Yields state (fun _ => holds) (fun _ => holds) :=
    yields_walk (fun _ => holds) (read state begins) fun _ state along => step _ _ state along
  cases active with
  | false => exact walk .rest state begins
  | true => exact yields_setActive (walk .streaming state begins) fun _ halfway => walk .rest halfway

end Staged

end DspInspector

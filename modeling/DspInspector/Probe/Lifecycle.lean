import DspInspector.Data.Action
import DspInspector.Probe.Error

/-!
# Starting and stopping

The probe service of the driver moves one stage at a time, from idle to active or back. Where it is
is asked once, at the beginning of a walk. A start that fails halfway is taken back.
-/

namespace DspInspector

/-- Where a walk ends. -/
inductive Goal where
  | streaming
  | rest
  deriving DecidableEq

namespace Stage

/-- The next stage on the way to a goal; none at the goal. -/
def next : Goal → Stage → Option Stage
  | .streaming, .idle => some .owned
  | .streaming, .owned => some .allocated
  | .streaming, .allocated => some .active
  | .streaming, .active => none
  | .rest, .active => some .allocated
  | .rest, .allocated => some .owned
  | .rest, .owned => some .idle
  | .rest, .idle => none

/-- The number of steps to a goal. -/
def distance : Goal → Stage → Nat
  | .streaming, .idle => 3
  | .streaming, .owned => 2
  | .streaming, .allocated => 1
  | .streaming, .active => 0
  | .rest, .active => 3
  | .rest, .allocated => 2
  | .rest, .owned => 1
  | .rest, .idle => 0

theorem distance_of_next {goal : Goal} {stage target : Stage} (step : stage.next goal = some target) :
    target.distance goal + 1 = stage.distance goal := by
  cases goal <;> cases stage <;> cases step <;> rfl

end Stage

/-- Something that is taken through the stages. -/
structure Staged (σ : Type) where
  stage : Action ProbeError σ Stage
  move : (source target : Stage) → Action ProbeError σ Unit

namespace Staged

variable {σ : Type}

/-- The failure of a step, said of the stage when the driver itself reports it. -/
def stepFailure : ProbeError → ProbeError
  | .driver message => .stageWrite message
  | cause => cause

/-- Where the service is. -/
def readStage (staged : Staged σ) : Action ProbeError σ Stage :=
  Action.mapError (fun cause => .stageRead cause.message) staged.stage

/-- Moves step by step from a stage to the goal. -/
def walkFrom (staged : Staged σ) (goal : Goal) (stage : Stage) : Action ProbeError σ Unit :=
  match _ : stage.next goal with
  | none => pure ()
  | some target => do
    Action.mapError stepFailure (staged.move stage target)
    walkFrom staged goal target
termination_by stage.distance goal
decreasing_by exact Nat.lt_of_succ_le (Nat.le_of_eq (Stage.distance_of_next ‹_›))

/-- Moves to the goal from wherever the service is. -/
def walk (staged : Staged σ) (goal : Goal) : Action ProbeError σ Unit := do
  let stage ← staged.readStage
  walkFrom staged goal stage

/-- Goes to rest. -/
def stop (staged : Staged σ) : Action ProbeError σ Unit := staged.walk .rest

/-- Goes to rest as far as possible; a failure is passed over. -/
def stopQuietly (staged : Staged σ) : Action ProbeError σ Unit := do
  let _ ← staged.stop.attempt

/-- Starts streaming, or stops. A failed start is taken back before it is reported. -/
def setActive (staged : Staged σ) : Bool → Action ProbeError σ Unit
  | false => staged.stop
  | true => do
    match ← (staged.walk .streaming).attempt with
    | .ok _ => pure ()
    | .error cause =>
      staged.stopQuietly
      throw cause

/-- Whether the service is streaming; being halfway is a failure. -/
def isActive (staged : Staged σ) : Action ProbeError σ Bool := do
  match ← staged.readStage with
  | .idle => pure false
  | .active => pure true
  | stage => throw (.unexpectedStage stage)

end Staged

end DspInspector

/-!
# Actions

An action works on a state and may fail; the state it leaves counts in both cases. Everything that
talks to a device is an action on the state of that device, so that what was done before a failure
is never forgotten.
-/

namespace DspInspector

/-- A computation that may fail with `ε` and changes a state `σ` either way. -/
abbrev Action (ε σ α : Type) := EStateM ε σ α

namespace Action

variable {ε ε' σ τ α : Type}

/-- A result that does not touch the state. -/
def ofExcept : Except ε α → Action ε σ α
  | .ok value => fun state => .ok value state
  | .error cause => fun state => .error cause state

/-- The same action with its failure in other words. -/
def mapError (change : ε → ε') (action : Action ε σ α) : Action ε' σ α := fun state =>
  match action state with
  | .ok value after => .ok value after
  | .error cause after => .error (change cause) after

/-- The outcome of an action as a value. -/
def attempt (action : Action ε σ α) : Action ε' σ (Except ε α) := fun state =>
  match action state with
  | .ok value after => .ok (.ok value) after
  | .error cause after => .ok (.error cause) after

/-- An action on a part of a larger state. -/
def onPart (get : σ → τ) (set : τ → σ → σ) (action : Action ε τ α) : Action ε σ α := fun state =>
  match action (get state) with
  | .ok value after => .ok value (set after state)
  | .error cause after => .error cause (set after state)

/-- The outcome and the state after it. -/
def run (action : Action ε σ α) (state : σ) : Except ε α × σ :=
  match action state with
  | .ok value after => (.ok value, after)
  | .error cause after => (.error cause, after)

end Action

end DspInspector

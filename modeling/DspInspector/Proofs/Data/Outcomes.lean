import DspInspector.Data.Action

/-!
# What an action leads to

An action that is begun in a state succeeds or fails, and leaves a state in both cases. `Yields` says
what holds in the one case and what in the other; it is worked out step by step along the text of an
action, so that callers of the action need not look into it. `Keeps` says that something about the state
is the same afterwards, however the action ends.
-/

namespace DspInspector.Action

variable {ε ε' σ τ α β ω : Type}

/-- Begun in a state, the action succeeds with the first property or fails with the second. -/
def Yields (action : Action ε σ α) (state : σ) (done : α → σ → Prop) (failed : ε → σ → Prop) : Prop :=
  match action state with
  | .ok value after => done value after
  | .error cause after => failed cause after

/-- However the action ends, something about the state is the same afterwards. -/
def Keeps (view : σ → ω) (action : Action ε σ α) : Prop :=
  ∀ state, action.Yields state (fun _ after => view after = view state)
    (fun _ after => view after = view state)

/-- What an action leads to from one state can be tried out. -/
instance {action : Action ε σ α} {state : σ} {done : α → σ → Prop} {failed : ε → σ → Prop}
    [∀ value after, Decidable (done value after)] [∀ cause after, Decidable (failed cause after)] :
    Decidable (action.Yields state done failed) :=
  show Decidable (match action state with
      | .ok value after => done value after
      | .error cause after => failed cause after) from
    match action state with
    | .ok value after => inferInstanceAs (Decidable (done value after))
    | .error cause after => inferInstanceAs (Decidable (failed cause after))

section Steps

variable {action : Action ε σ α} {state after : σ} {value : α} {cause : ε}
  {done done' : α → σ → Prop} {failed failed' : ε → σ → Prop}

theorem Yields.of_ok (yields : action.Yields state done failed) (ran : action state = .ok value after) :
    done value after := by
  simpa only [Yields, ran] using yields

theorem Yields.of_error (yields : action.Yields state done failed)
    (ran : action state = .error cause after) : failed cause after := by
  simpa only [Yields, ran] using yields

theorem yields_of_ok (ran : action state = .ok value after) :
    action.Yields state done failed ↔ done value after := by
  simp only [Yields, ran]

/-- A sequence goes on from where its first action ends. -/
theorem bind_of_ok {next : α → Action ε σ β} (ran : action state = .ok value after) :
    (action >>= next) state = next value after := by
  change EStateM.bind action next state = _
  rw [EStateM.bind, ran]

/-- A sequence fails where its first action does. -/
theorem bind_of_error {next : α → Action ε σ β} (ran : action state = .error cause after) :
    (action >>= next) state = .error cause after := by
  change EStateM.bind action next state = _
  rw [EStateM.bind, ran]

/-- A sequence that succeeds does so step by step. -/
theorem of_bind_ok {next : α → Action ε σ β} {result : β} (ran : (action >>= next) state = .ok result after) :
    ∃ value between, action state = .ok value between ∧ next value between = .ok result after := by
  cases first : action state with
  | ok value between => exact ⟨value, between, rfl, (bind_of_ok first).symm.trans ran⟩
  | error cause between => cases (bind_of_error first).symm.trans ran

theorem run_of_ok (ran : action state = .ok value after) : (action.run state).1 = .ok value := by
  rw [Action.run, ran]

theorem of_run_ok (ran : (action.run state).1 = .ok value) : ∃ after, action state = .ok value after := by
  unfold Action.run at ran
  cases first : action state <;> simp_all

theorem of_mapError_ok {change : ε → ε'} (ran : mapError change action state = .ok value after) :
    action state = .ok value after := by
  cases first : action state <;> simp_all [mapError]

theorem mapError_of_ok {change : ε → ε'} (ran : action state = .ok value after) :
    mapError change action state = .ok value after := by
  rw [mapError, ran]

theorem mapError_of_error {change : ε → ε'} (ran : action state = .error cause after) :
    mapError change action state = .error (change cause) after := by
  rw [mapError, ran]

/-- Words that are left as they are change nothing. -/
theorem mapError_id (action : Action ε σ α) : mapError id action = action := by
  funext state
  cases ran : action state <;> simp only [mapError, ran, id]

/-- An action that cannot fail succeeds. -/
theorem Yields.exists_ok (yields : action.Yields state done (fun _ _ => False)) :
    ∃ value after, action state = .ok value after ∧ done value after := by
  cases ran : action state with
  | ok value after => exact ⟨value, after, rfl, yields.of_ok ran⟩
  | error cause after => exact (yields.of_error ran).elim

/-- An action that cannot succeed fails. -/
theorem Yields.exists_error (yields : action.Yields state (fun _ _ => False) failed) :
    ∃ cause after, action state = .error cause after ∧ failed cause after := by
  cases ran : action state with
  | ok value after => exact (yields.of_ok ran).elim
  | error cause after => exact ⟨cause, after, rfl, yields.of_error ran⟩

/-- What holds however the action ends holds of the state after it. -/
theorem Yields.run {always : σ → Prop} (yields : action.Yields state (fun _ => always) fun _ => always) :
    always (action.run state).2 := by
  unfold Action.run
  cases ran : action state with
  | ok value after => exact yields.of_ok ran
  | error cause after => exact yields.of_error ran

/-- What an action leads to is a property of its outcome and the state after it. -/
theorem yields_iff_run {motive : Except ε α → σ → Prop} :
    action.Yields state (fun value => motive (.ok value)) (fun cause => motive (.error cause)) ↔
      motive (action.run state).1 (action.run state).2 := by
  unfold Yields Action.run
  cases action state <;> exact Iff.rfl

theorem Yields.mono (yields : action.Yields state done failed)
    (onDone : ∀ value after, done value after → done' value after)
    (onFailed : ∀ cause after, failed cause after → failed' cause after) :
    action.Yields state done' failed' := by
  cases ran : action state with
  | ok value after =>
    simp only [Yields, ran] at yields ⊢
    exact onDone value after yields
  | error cause after =>
    simp only [Yields, ran] at yields ⊢
    exact onFailed cause after yields

theorem yields_of_forall (onDone : ∀ value after, done value after)
    (onFailed : ∀ cause after, failed cause after) : action.Yields state done failed := by
  cases ran : action state with
  | ok value after => simpa only [Yields, ran] using onDone value after
  | error cause after => simpa only [Yields, ran] using onFailed cause after

theorem yields_congr (onDone : ∀ value after, done value after ↔ done' value after)
    (onFailed : ∀ cause after, failed cause after ↔ failed' cause after) :
    action.Yields state done failed ↔ action.Yields state done' failed' :=
  ⟨fun yields => yields.mono (fun value after => (onDone value after).mp)
      fun cause after => (onFailed cause after).mp,
    fun yields => yields.mono (fun value after => (onDone value after).mpr)
      fun cause after => (onFailed cause after).mpr⟩

theorem Yields.and (one : action.Yields state done failed) (two : action.Yields state done' failed') :
    action.Yields state (fun value after => done value after ∧ done' value after)
      (fun cause after => failed cause after ∧ failed' cause after) := by
  cases ran : action state with
  | ok value after =>
    simp only [Yields, ran] at one two ⊢
    exact ⟨one, two⟩
  | error cause after =>
    simp only [Yields, ran] at one two ⊢
    exact ⟨one, two⟩

@[simp] theorem yields_pure :
    (pure value : Action ε σ α).Yields state done failed ↔ done value state := Iff.rfl

@[simp] theorem yields_throw :
    (throw cause : Action ε σ α).Yields state done failed ↔ failed cause state := Iff.rfl

@[simp] theorem yields_get {done : σ → σ → Prop} :
    (get : Action ε σ σ).Yields state done failed ↔ done state state := Iff.rfl

@[simp] theorem yields_modify {change : σ → σ} {done : PUnit → σ → Prop} :
    (modify change : Action ε σ PUnit).Yields state done failed ↔ done ⟨⟩ (change state) := Iff.rfl

@[simp] theorem yields_bind {next : α → Action ε σ β} {done : β → σ → Prop} :
    (action >>= next).Yields state done failed ↔
      action.Yields state (fun value after => (next value).Yields after done failed) failed := by
  change (match EStateM.bind action next state with | .ok _ _ => _ | .error _ _ => _) ↔ _
  unfold EStateM.bind Yields
  cases action state <;> rfl

@[simp] theorem yields_mapError {change : ε → ε'} {failed : ε' → σ → Prop} :
    (mapError change action).Yields state done failed ↔
      action.Yields state done (fun cause => failed (change cause)) := by
  cases ran : action state <;> simp only [Yields, mapError, ran]

@[simp] theorem yields_attempt {done : Except ε α → σ → Prop} {failed : ε' → σ → Prop} :
    (attempt action : Action ε' σ (Except ε α)).Yields state done failed ↔
      action.Yields state (fun value => done (.ok value)) (fun cause => done (.error cause)) := by
  cases ran : action state <;> simp only [Yields, attempt, ran]

@[simp] theorem yields_ofExcept {result : Except ε α} :
    (ofExcept result : Action ε σ α).Yields state done failed ↔
      match result with
      | .ok value => done value state
      | .error cause => failed cause state := by
  cases result <;> rfl

@[simp] theorem yields_onPart {part : σ → τ} {put : τ → σ → σ} {action : Action ε τ α} :
    (onPart part put action).Yields state done failed ↔
      action.Yields (part state) (fun value after => done value (put after state))
        (fun cause after => failed cause (put after state)) := by
  cases ran : action (part state) <;> simp only [Yields, onPart, ran]

end Steps

section Parts

variable {view : σ → ω} {action : Action ε σ α}

theorem Keeps.bind {next : α → Action ε σ β} (first : Keeps view action)
    (second : ∀ value, Keeps view (next value)) : Keeps view (action >>= next) := by
  intro state
  rw [yields_bind]
  refine (first state).mono (fun value after kept => ?_) (fun _ _ kept => kept)
  rw [← kept]
  exact second value after

theorem Keeps.mapError {change : ε → ε'} (keeps : Keeps view action) :
    Keeps view (mapError change action) :=
  fun state => yields_mapError.mpr (keeps state)

/-- What is kept on its own is kept together. -/
theorem Keeps.prod {other : σ → τ} (one : Keeps view action) (two : Keeps other action) :
    Keeps (fun state => (view state, other state)) action := by
  intro state
  refine ((one state).and (two state)).mono (fun _ _ both => ?_) (fun _ _ both => ?_)
  · exact Prod.ext both.1 both.2
  · exact Prod.ext both.1 both.2

theorem keeps_pure (value : α) : Keeps view (pure value : Action ε σ α) := fun _ => rfl

/-- An action keeps a view that shows nothing. -/
theorem keeps_nothing (action : Action ε σ α) : Keeps (fun _ => ()) action :=
  fun _ => yields_of_forall (fun _ _ => rfl) fun _ _ => rfl

theorem keeps_throw (cause : ε) : Keeps view (throw cause : Action ε σ α) := fun _ => rfl

theorem keeps_ofExcept (result : Except ε α) : Keeps view (ofExcept result : Action ε σ α) := by
  cases result with
  | ok value => exact keeps_pure value
  | error cause => exact keeps_throw cause

end Parts

end DspInspector.Action

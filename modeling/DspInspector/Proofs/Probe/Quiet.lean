import DspInspector.Proofs.Probe.Scripted

/-!
# Nothing streams once a session is stopped

With an honest driver, workers run and queues are open at the last two stages only. So a stop that succeeds
leaves no worker and no open queue, and neither does a start that fails, as long as the driver tells where
it is when the start is taken back (`halted_of_stopped`).
-/

namespace DspInspector

open DspInspector.Action

variable {δ : Type}

theorem Stage.ne_active_of_next {source target : Stage} (step : source.next .rest = some target) :
    target ≠ .active := by
  rintro rfl
  cases source <;> cases step

/-- A start that fails ends where the walk to rest from halfway ends. -/
theorem Staged.setActive_of_error {σ : Type} {staged : Staged σ} {state halfway : σ} {cause : ProbeError}
    (stuck : staged.walk .streaming state = .error cause halfway) :
    staged.setActive true state = .error cause (Action.run staged.stop halfway).2 := by
  have attempted : (Action.attempt (staged.walk .streaming) : Action ProbeError σ _) state =
      .ok (.error cause) halfway := by
    simp only [Action.attempt, stuck]
  change EStateM.bind (Action.attempt (staged.walk .streaming)) _ state = _
  simp only [EStateM.bind, attempted]
  change EStateM.bind (EStateM.bind (Action.attempt staged.stop) _) _ halfway = _
  cases stopped : staged.stop halfway with
  | ok value after =>
    simp only [EStateM.bind, Action.attempt, Action.run, stopped]
    rfl
  | error other after =>
    simp only [EStateM.bind, Action.attempt, Action.run, stopped]
    rfl

namespace Prober

variable {driver : ProbeDevice δ} {stageOf : δ → Stage} {prober : Prober δ}

/-- Once the driver has told where it is, the way to rest stops every worker, however far it gets. -/
theorem yields_walkFrom_rest (honest : driver.Honest stageOf) {stage : Stage}
    (there : stageOf prober.device = stage) (orderly : Orderly stageOf prober) :
    ((staged driver).walkFrom .rest stage).Yields prober (fun _ after => after.Halted)
      (fun _ after => after.Halted) := by
  have walk : ((staged driver).walkFrom .rest stage).Yields prober
      (fun _ after => stageOf after.device = .idle ∧ Orderly stageOf after) (fun _ after => after.Halted) := by
    -- A step that fails has stopped the workers before the driver was asked, so there is nothing to carry over.
    refine Staged.yields_walkFrom (fun stage after => stageOf after.device = stage ∧ Orderly stageOf after) ?_
      stage prober ⟨there, orderly⟩
    intro source target step state _
    refine (yields_move_halted honest (Stage.ne_active_of_next step)).mono (fun _ after reached => ?_)
      (fun _ _ halted => halted)
    exact ⟨reached.1, reached.2.orderly⟩
  exact walk.mono (fun _ after reached => reached.2.halted (.inl reached.1)) fun _ _ halted => halted

/-- A start that fails leaves nothing that streams if the driver tells where it is. -/
theorem halted_of_failed_start (honest : driver.Honest stageOf) (orderly : Orderly stageOf prober)
    {cause : ProbeError} {halfway : Prober δ} {stage : Stage} {device : δ}
    (stuck : (staged driver).walk .streaming prober = .error cause halfway)
    (told : driver.stage halfway.device = .ok stage device) :
    ∃ after, setActive driver true prober = .error cause after ∧ after.Halted := by
  have there : Orderly stageOf halfway := (yields_walk_orderly honest orderly .streaming).of_error stuck
  obtain ⟨isStage, kept⟩ := (honest.stage halfway.device).of_ok told
  have read : (onDevice driver.stage).Yields halfway
      (fun found after => found = stage ∧ after = { halfway with device }) (fun _ _ => False) := by
    rw [yields_onDevice]
    simp only [Yields, told]
    exact ⟨trivial, trivial⟩
  have stopped : (staged driver).stop.Yields halfway (fun _ after => after.Halted) (fun _ after => after.Halted) := by
    refine yields_bind.mpr (yields_mapError.mpr (read.mono (fun found after isRead => ?_) fun _ _ none => none.elim))
    obtain ⟨rfl, rfl⟩ := isRead
    exact yields_walkFrom_rest honest (kept.trans isStage.symm) (there.of_calm (.of_device kept))
  exact ⟨_, Staged.setActive_of_error stuck, stopped.run⟩

/-- Whatever was done before, workers run and queues are open at the last two stages only. Nothing streams
after a stop, nor after a start that failed and could be taken back. -/
theorem halted_of_stopped (honest : driver.Honest stageOf) (device : δ) (queueBytes : Nat)
    (calls : List ProberCall) :
    let prober := afterAll driver (create driver device queueBytes) calls
    (¬ prober.Halted → stageOf prober.device = .allocated ∨ stageOf prober.device = .active) ∧
    (setActive driver false).Yields prober (fun _ after => after.Halted) (fun _ _ => True) ∧
    ∀ cause halfway stage device', (staged driver).walk .streaming prober = .error cause halfway →
      driver.stage halfway.device = .ok stage device' →
        ∃ after, setActive driver true prober = .error cause after ∧ after.Halted := by
  intro prober
  have orderly : Orderly stageOf prober := orderly_afterAll honest device queueBytes calls
  refine ⟨?_, ?_, ?_⟩
  · intro streams
    exact orderly.quiet.resolve_left streams
  · refine (yields_setActive_orderly honest orderly false).mono (fun _ after reached => ?_) fun _ _ _ => trivial
    exact reached.2.halted (.inl reached.1)
  · intro cause halfway stage device' stuck told
    exact halted_of_failed_start honest orderly stuck told

/-- A driver with one channel for each flow that cannot become active. -/
def sampleStubborn : ScriptedProbeDevice :=
  { script := { extractionChannels := 1, injectionChannels := 1, enterFailures := [(.active, .driver "busy")] } }

/-- A start that the driver refuses after every worker was started. -/
theorem sample_halted :
    ScriptedProbeDevice.driver.Honest ScriptedProbeDevice.stageOf ∧
    (setActive ScriptedProbeDevice.driver true).Yields
      (afterAll ScriptedProbeDevice.driver (create ScriptedProbeDevice.driver sampleStubborn 64)
        [.configure sampleProbes (.ofList [(1, 2)])])
      (fun _ _ => False) (fun cause after => cause = .stageWrite "busy" ∧ after.Halted) := by
  have honest := ScriptedProbeDevice.scripted_honest
  obtain ⟨-, -, failed⟩ := halted_of_stopped honest sampleStubborn 64
    [.configure sampleProbes (.ofList [(1, 2)])]
  have start : ((staged ScriptedProbeDevice.driver).walk .streaming).Yields
      (afterAll ScriptedProbeDevice.driver (create ScriptedProbeDevice.driver sampleStubborn 64)
        [.configure sampleProbes (.ofList [(1, 2)])])
      (fun _ _ => False)
      (fun cause halfway => cause = .stageWrite "busy" ∧
        halfway.extractor.isSome = true ∧ halfway.injectors.length = 1 ∧
        ScriptedProbeDevice.driver.stage.Yields halfway.device (fun _ _ => True) fun _ _ => False) := by
    decide +kernel
  obtain ⟨cause, halfway, stuck, rfl, -, -, tells⟩ := start.exists_error
  obtain ⟨stage, device, told, -⟩ := tells.exists_ok
  obtain ⟨after, refused, halted⟩ := failed _ _ _ _ stuck told
  refine ⟨honest, ?_⟩
  simp only [Yields, refused]
  exact ⟨trivial, halted⟩

end Prober

end DspInspector

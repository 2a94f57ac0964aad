import DspInspector.Proofs.Probe.Runs

/-!
# Drivers that tell where they are

A driver is honest if the stage it reports is the one it was last moved to. It may fail at any time; a
failure moves nothing. With an honest driver a walk arrives where it was going, and workers run only where
they may (`yields_walk_orderly`, `orderly_afterCall`).
-/

namespace DspInspector

open DspInspector.Action

variable {δ : Type}

/-- The driver reports the stage it was last moved to, and nothing but a move changes it. -/
structure ProbeDevice.Honest (driver : ProbeDevice δ) (stageOf : δ → Stage) : Prop where
  stage : ∀ device, driver.stage.Yields device
    (fun stage after => stage = stageOf device ∧ stageOf after = stageOf device)
    (fun _ after => stageOf after = stageOf device)
  move : ∀ source target device, (driver.move source target).Yields device
    (fun _ after => stageOf after = target) (fun _ after => stageOf after = stageOf device)
  program : ∀ flow channel probe, Keeps stageOf (driver.program flow channel probe)
  openExtraction : Keeps stageOf driver.openExtraction
  openInjection : driver.InjectionKeeps stageOf

theorem ProbeDevice.Honest.keeps_stage {driver : ProbeDevice δ} {stageOf : δ → Stage}
    (honest : driver.Honest stageOf) : Keeps stageOf driver.stage :=
  fun device => (honest.stage device).mono (fun _ _ read => read.2) fun _ _ kept => kept

/-- The driver that refuses to move whenever its state has a property. -/
def ProbeDevice.refusing (driver : ProbeDevice δ) (refuses : δ → Bool) : ProbeDevice δ :=
  { driver with
    move source target device :=
      if refuses device then .error (.driver "busy") device else driver.move source target device }

/-- Failing more often is no less honest. -/
theorem ProbeDevice.Honest.refusing {driver : ProbeDevice δ} {stageOf : δ → Stage}
    (honest : driver.Honest stageOf) (refuses : δ → Bool) : (driver.refusing refuses).Honest stageOf where
  stage := honest.stage
  move source target device := by
    simp only [ProbeDevice.refusing, Yields]
    by_cases refused : refuses device
    · simp only [refused, ↓reduceIte]
    · simp only [refused, Bool.false_eq_true, ↓reduceIte]
      exact honest.move source target device
  program := honest.program
  openExtraction := honest.openExtraction
  openInjection := honest.openInjection

namespace Prober

variable {driver : ProbeDevice δ} {stageOf : δ → Stage} {prober : Prober δ}

/-- Every worker was started. -/
def Launched (stageOf : δ → Stage) (before after : Prober δ) : Prop :=
  ∃ between, Prepared (fun _ => True) before between ∧
    Joined stageOf before.injectionMap.values before.injectionMap.values between after

/-- Workers run and queues are open only where the driver has channels to stream over. -/
structure Orderly (stageOf : δ → Stage) (prober : Prober δ) : Prop where
  sinks : SinksKeep stageOf prober
  quiet : prober.Halted ∨ stageOf prober.device = .allocated ∨ stageOf prober.device = .active

theorem Halted.orderly (halted : prober.Halted) : Orderly stageOf prober where
  sinks injector member := by
    rw [halted.injectors] at member
    cases member
  quiet := .inl halted

theorem Orderly.halted (orderly : Orderly stageOf prober)
    (early : stageOf prober.device = .idle ∨ stageOf prober.device = .owned) : prober.Halted := by
  rcases orderly.quiet with halted | late | late
  · exact halted
  · rcases early with early | early <;> rw [late] at early <;> cases early
  · rcases early with early | early <;> rw [late] at early <;> cases early

/-- Traffic keeps the order. -/
theorem Orderly.of_calm {after : Prober δ} (orderly : Orderly stageOf prober)
    (calm : Calm stageOf prober after) : Orderly stageOf after where
  sinks := calm.sinksKeep orderly.sinks
  quiet := by
    rw [calm.device]
    exact orderly.quiet.imp_left calm.halted

/-! ## Steps -/

/-- The step into the active stage starts every worker. On a failure the driver is where it was. -/
theorem yields_move_launched (honest : driver.Honest stageOf) (keep : SinksKeep stageOf prober)
    (source : Stage) :
    (move driver source .active).Yields prober
      (fun _ after => stageOf after.device = .active ∧ SinksKeep stageOf after ∧
        ∃ launched device, Launched stageOf prober launched ∧ after = { launched with device })
      (fun _ after => stageOf after.device = stageOf prober.device ∧ SinksKeep stageOf after) := by
  rw [yields_move_active]
  have opens : driver.openExtraction.Yields prober.device (fun _ _ => True) (fun _ _ => True) :=
    yields_of_forall (fun _ _ => trivial) fun _ _ => trivial
  have started := (yields_startStreaming_keeps honest.openInjection honest.openExtraction keep).and
    (yields_startStreaming honest.openInjection opens)
  refine started.mono (fun _ launched reached => ?_) (fun _ after stuck => ?_)
  · obtain ⟨⟨-, kept, sinks⟩, isLaunched⟩ := reached
    refine (honest.move source .active launched.device).mono (fun _ device arrived => ?_)
      (fun _ device stayed => ?_)
    · exact ⟨arrived, sinks, launched, device, isLaunched, rfl⟩
    · exact ⟨stayed.trans kept, sinks⟩
  · obtain ⟨⟨-, kept, halted⟩, -⟩ := stuck
    exact ⟨kept, halted.orderly.sinks⟩

/-- Every other step stops the workers, whether the driver takes it or not. -/
theorem yields_move_halted (honest : driver.Honest stageOf) {source target : Stage}
    (other : target ≠ .active) :
    (move driver source target).Yields prober
      (fun _ after => stageOf after.device = target ∧ after.Halted) (fun _ after => after.Halted) := by
  rw [yields_move_other other]
  have halted (device : δ) : ({ prober.stopWorkers with device } : Prober δ).Halted :=
    (halted_stopWorkers prober).with_device device
  refine (honest.move source target prober.device).mono (fun _ device arrived => ?_)
    (fun _ device _ => halted device)
  dsimp only
  split
  · have programmed := (keeps_fitted_programAll { prober.stopWorkers with device }).and
      (keeps_device_programAll honest.program { prober.stopWorkers with device })
    refine programmed.mono (fun _ after kept => ?_) (fun _ after kept => ?_)
    · rw [eq_of_fitted kept.1]
      exact ⟨kept.2.trans arrived, halted _⟩
    · rw [eq_of_fitted kept.1]
      exact halted _
  · exact ⟨arrived, halted device⟩

/-- A step that succeeds arrives, and workers run only where they may, however it ends. -/
theorem yields_move_orderly (honest : driver.Honest stageOf) (sinks : SinksKeep stageOf prober)
    {source target : Stage} (late : target = .active → stageOf prober.device = .allocated) :
    (move driver source target).Yields prober
      (fun _ after => stageOf after.device = target ∧ Orderly stageOf after)
      (fun _ => Orderly stageOf) := by
  by_cases isActive : target = .active
  · have allocated := late isActive
    subst isActive
    refine (yields_move_launched honest sinks source).mono (fun _ after reached => ?_)
      (fun _ after stayed => ?_)
    · exact ⟨reached.1, reached.2.1, .inr (.inr reached.1)⟩
    · exact ⟨stayed.2, .inr (.inl (stayed.1.trans allocated))⟩
  · refine (yields_move_halted honest isActive).mono (fun _ after reached => ?_) (fun _ after halted => ?_)
    · exact ⟨reached.1, reached.2.orderly⟩
    · exact halted.orderly

/-! ## Walks -/

/-- A walk arrives where it was going, and is orderly all the way. -/
theorem yields_walk_orderly (honest : driver.Honest stageOf) (orderly : Orderly stageOf prober)
    (goal : Goal) :
    ((staged driver).walk goal).Yields prober
      (fun _ after => stageOf after.device = goal.stage ∧ Orderly stageOf after)
      (fun _ => Orderly stageOf) := by
  refine Staged.yields_walk (fun stage after => stageOf after.device = stage ∧ Orderly stageOf after) ?_ ?_
  · refine yields_onDevice.mpr ((honest.stage prober.device).mono (fun stage device read => ?_)
      (fun cause device kept => ?_))
    · exact ⟨read.2.trans read.1.symm, orderly.of_calm (.of_device read.2)⟩
    · exact orderly.of_calm (.of_device kept)
  · intro source target next state along
    obtain ⟨there, orderly⟩ := along
    refine yields_move_orderly honest orderly.sinks fun isActive => ?_
    rw [there]
    exact Stage.allocated_of_next (isActive ▸ next)

/-- A start arrives at the active stage and a stop at rest, or the failure is reported. -/
theorem yields_setActive_orderly (honest : driver.Honest stageOf) (orderly : Orderly stageOf prober)
    (active : Bool) :
    (setActive driver active).Yields prober
      (fun _ after => stageOf after.device = (if active then .active else .idle) ∧ Orderly stageOf after)
      (fun _ => Orderly stageOf) := by
  cases active with
  | false => exact yields_walk_orderly honest orderly .rest
  | true =>
    refine Staged.yields_setActive (yields_walk_orderly honest orderly .streaming) fun _ halfway stuck => ?_
    exact (yields_walk_orderly honest stuck .rest).mono (fun _ _ reached => reached.2) fun _ _ stays => stays

/-! ## Runs -/

/-- A configuration has nothing to do with the workers. -/
theorem Halted.reconfigured (halted : prober.Halted) (probes : List Probe) (sampleSizes : SampleSizes) :
    (Prober.reconfigured probes sampleSizes prober).Halted := by
  refine ⟨halted.extractor, halted.injectors, fun flow => ?_⟩
  rw [queues_reconfigured]
  exact halted.queues flow

theorem Orderly.of_taken {told : Stage → Prop} {probes : List Probe} {sampleSizes : SampleSizes}
    {after : Prober δ} (orderly : Orderly stageOf prober)
    (taken : Taken stageOf told probes sampleSizes prober after) : Orderly stageOf after := by
  cases taken with
  | refused device kept shape => exact shape ▸ orderly.of_calm (.of_device kept)
  | taken device kept stage isTold inactive fits shape =>
    subst shape
    have there : Orderly stageOf (Prober.reconfigured probes sampleSizes prober) :=
      ⟨orderly.sinks, orderly.quiet.imp_left fun halted => halted.reconfigured probes sampleSizes⟩
    exact there.of_calm (.of_device kept)

theorem yields_configure_honest (honest : driver.Honest stageOf) (probes : List Probe)
    (sampleSizes : SampleSizes) :
    (configure driver probes sampleSizes).Yields prober
      (fun _ => Taken stageOf (· = stageOf prober.device) probes sampleSizes prober)
      (fun _ => Taken stageOf (· = stageOf prober.device) probes sampleSizes prober) :=
  yields_configure_taken probes sampleSizes (honest.stage prober.device) fun _ => honest.program

/-- Every call keeps the order. -/
theorem orderly_afterCall (honest : driver.Honest stageOf) (orderly : Orderly stageOf prober)
    (call : ProberCall) : Orderly stageOf (afterCall driver prober call) := by
  by_cases traffic : call.IsTraffic
  · exact orderly.of_calm (calm_afterCall honest.keeps_stage orderly.sinks traffic)
  · suffices preserved : (call.act driver).Yields prober (fun _ => Orderly stageOf)
        (fun _ => Orderly stageOf) from preserved.run
    cases call with
    | configure probes sampleSizes =>
      exact (yields_configure_honest honest probes sampleSizes).mono (fun _ _ taken => orderly.of_taken taken)
        fun _ _ taken => orderly.of_taken taken
    | setActive active =>
      exact (yields_setActive_orderly honest orderly active).mono (fun _ _ reached => reached.2)
        fun _ _ stays => stays
    | isActive | dequeue | enqueue | reading | grant => exact absurd trivial traffic

theorem halted_create (device : δ) (queueBytes : Nat) : (create driver device queueBytes).Halted where
  extractor := rfl
  injectors := rfl
  queues flow queue member := by
    cases flow <;> exact (List.eq_of_mem_replicate member) ▸ rfl

/-- After any run workers run and queues are open only where they may. -/
theorem orderly_afterAll (honest : driver.Honest stageOf) (device : δ) (queueBytes : Nat)
    (calls : List ProberCall) :
    Orderly stageOf (afterAll driver (create driver device queueBytes) calls) :=
  afterAll_induction (motive := Orderly stageOf) (fun _ call orderly => orderly_afterCall honest orderly call)
    calls _ (halted_create device queueBytes).orderly

/-- If the call is a start or stop that fails, the driver is idle afterwards. -/
def Recovering (driver : ProbeDevice δ) (stageOf : δ → Stage) (prober : Prober δ) : ProberCall → Prop
  | .setActive active =>
    (setActive driver active).Yields prober (fun _ _ => True) (fun _ after => stageOf after.device = .idle)
  | _ => True

instance : (call : ProberCall) → Decidable (Recovering driver stageOf prober call)
  | .setActive active => inferInstanceAs (Decidable ((setActive driver active).Yields prober _ _))
  | .configure _ _ | .isActive | .dequeue _ | .enqueue _ _ | .reading _ | .grant _ _ => isTrue trivial

/-- In the course of the calls every failed start and stop left the driver idle. -/
def Recovers (driver : ProbeDevice δ) (stageOf : δ → Stage) : Prober δ → List ProberCall → Prop
  | _, [] => True
  | prober, call :: calls =>
    Recovering driver stageOf prober call ∧ Recovers driver stageOf (afterCall driver prober call) calls

instance decidableRecovers : (prober : Prober δ) → (calls : List ProberCall) →
    Decidable (Recovers driver stageOf prober calls)
  | _, [] => isTrue trivial
  | prober, call :: calls =>
    have := decidableRecovers (afterCall driver prober call) calls
    inferInstanceAs (Decidable (_ ∧ _))

/-- What holds where the driver recovers holds to the end of a run. -/
theorem afterAll_induction_of_recovers {motive : Prober δ → Prop}
    (step : ∀ prober call, motive prober → Recovering driver stageOf prober call →
      motive (afterCall driver prober call)) (calls : List ProberCall) :
    ∀ prober, Recovers driver stageOf prober calls → motive prober →
      motive (afterAll driver prober calls) := by
  induction calls with
  | nil => exact fun _ _ begins => begins
  | cons call calls ih =>
    intro prober recovers begins
    exact ih (afterCall driver prober call) recovers.2 (step prober call begins recovers.1)

end Prober

end DspInspector

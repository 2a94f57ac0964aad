import DspInspector.Proofs.Probe.Slots
import DspInspector.Proofs.Probe.Workers

/-!
# Configuring and moving

A configuration is taken over whole or not at all, and only the device notices that its channels are
programmed (`yields_configure`, `keeps_programAll`). A step into the active stage starts the workers
before the driver is asked, every other step stops them first (`yields_move_active`,
`yields_move_other`).
-/

namespace DspInspector

open DspInspector.Action

variable {δ ω : Type}

/-- A probe that takes part in a flow. -/
def Flow.wants : Flow → Probe → Bool
  | .extraction, probe => probe.enabled && probe.purpose.extracts
  | .injection, probe => probe.enabled && probe.purpose.injects

namespace Prober

variable {prober : Prober δ} {driver : ProbeDevice δ} {done : Unit → Prober δ → Prop}
  {failed : ProbeError → Prober δ → Prop}

/-! ## Programming the channels -/

/-- What programming one channel leaves alone, programming the channels of a flow leaves alone. -/
theorem keeps_program {view : Prober δ → ω} (flow : Flow)
    (one : ∀ channel probe, Keeps view (onDevice (driver.program flow channel probe))) :
    Keeps view (program driver flow) := by
  have onward (probes : List Probe) : ∀ channel, Keeps view (programFrom driver flow channel probes) := by
    induction probes with
    | nil => exact fun channel => keeps_pure ()
    | cons probe probes ih =>
      exact fun channel => (one channel probe).mapError.bind fun _ => ih (channel + 1)
  intro prober
  exact yields_bind.mpr (onward _ 0 prober)

theorem keeps_programAll {view : Prober δ → ω}
    (one : ∀ flow channel probe, Keeps view (onDevice (driver.program flow channel probe))) :
    Keeps view (programAll driver) :=
  (keeps_program .extraction (one .extraction)).bind fun _ => keeps_program .injection (one .injection)

/-- The prober with its device taken out. -/
def fitted (prober : Prober δ) : δ → Prober δ := fun device => { prober with device }

theorem eq_of_fitted {after : Prober δ} (same : after.fitted = prober.fitted) :
    after = { prober with device := after.device } :=
  congrFun same after.device

theorem setup_of_fitted {after : Prober δ} (same : after.fitted = prober.fitted) : after.setup = prober.setup := by
  rw [eq_of_fitted same]
  exact setup_congr rfl rfl (fun flow => by cases flow <;> rfl) fun flow => by cases flow <;> rfl

theorem keeps_fitted_onDevice {α : Type} (action : Action ProbeError δ α) : Keeps fitted (onDevice action) :=
  fun _ => yields_onDevice.mpr (yields_of_forall (fun _ _ => rfl) fun _ _ => rfl)

/-- Programming the channels changes the device alone. -/
theorem keeps_fitted_program (flow : Flow) : Keeps fitted (program driver flow) :=
  keeps_program flow fun channel probe => keeps_fitted_onDevice (driver.program flow channel probe)

theorem keeps_fitted_programAll : Keeps fitted (programAll driver) :=
  (keeps_fitted_program .extraction).bind fun _ => keeps_fitted_program .injection

theorem keeps_device_programAll {view : δ → ω}
    (one : ∀ flow channel probe, Keeps view (driver.program flow channel probe)) :
    Keeps (fun prober : Prober δ => view prober.device) (programAll driver) :=
  keeps_programAll fun flow channel probe prober =>
    yields_onDevice.mpr (one flow channel probe prober.device)

/-! ## Taking over a configuration -/

/-- The prober with another configuration. -/
def reconfigured (probes : List Probe) (sampleSizes : SampleSizes) (prober : Prober δ) : Prober δ :=
  { prober with
    probes, sampleSizes
    extractionMap := compact (ActiveSlots.slotsWhere Flow.extraction.wants probes)
    injectionMap := compact (ActiveSlots.slotsWhere Flow.injection.wants probes) }

theorem queues_reconfigured (probes : List Probe) (sampleSizes : SampleSizes) (prober : Prober δ) (flow : Flow) :
    (reconfigured probes sampleSizes prober).queues flow = prober.queues flow := by
  cases flow <;> rfl

theorem checkSession_eq_ok {probes : List Probe} {active : ActiveSlots}
    (fits : prober.checkSession probes = .ok active) :
    active = ActiveSlots.of probes ∧ ∀ flow, probes.countP (Flow.wants flow) ≤ (prober.queues flow).length := by
  unfold checkSession at fits
  split at fits
  · cases fits
  · dsimp only at fits
    split at fits
    · cases fits
    · split at fits
      · cases fits
      · rename_i extraction injection
        cases fits
        refine ⟨rfl, fun flow => ?_⟩
        rw [← ActiveSlots.length_slotsWhere]
        cases flow with
        | extraction => exact Nat.le_of_not_lt extraction
        | injection => exact Nat.le_of_not_lt injection

theorem checkSession_eq_error {probes : List Probe} {cause : ProbeError}
    (refused : prober.checkSession probes = .error cause) :
    cause = .probeCount prober.slots probes.length ∧ probes.length ≠ prober.slots ∨
    cause = .tooManyExtractions (probes.countP Flow.extraction.wants) ∧
      (prober.queues .extraction).length < probes.countP Flow.extraction.wants ∨
    cause = .tooManyInjections (probes.countP Flow.injection.wants) ∧
      (prober.queues .injection).length < probes.countP Flow.injection.wants := by
  have extractions : (ActiveSlots.of probes).extraction.length = probes.countP Flow.extraction.wants :=
    @ActiveSlots.length_slotsWhere Flow.extraction.wants probes
  have injections : (ActiveSlots.of probes).injection.length = probes.countP Flow.injection.wants :=
    @ActiveSlots.length_slotsWhere Flow.injection.wants probes
  unfold checkSession at refused
  dsimp only at refused
  rw [extractions, injections] at refused
  split at refused
  · rename_i count
    cases refused
    exact .inl ⟨rfl, count⟩
  · split at refused
    · rename_i extraction
      cases refused
      exact .inr (.inl ⟨rfl, extraction⟩)
    · split at refused
      · rename_i injection
        cases refused
        exact .inr (.inr ⟨rfl, injection⟩)
      · cases refused

/-- A session that fits is taken over unless the driver is active, and programmed if it is owned. -/
theorem yields_configure {probes : List Probe} {sampleSizes : SampleSizes} :
    (configure driver probes sampleSizes).Yields prober done failed ↔
      match prober.checkSession probes with
      | .error cause => failed cause prober
      | .ok _ => driver.stage.Yields prober.device
          (fun stage device =>
            let after := { reconfigured probes sampleSizes prober with device }
            match stage with
            | .active => failed .configWhileActive { prober with device }
            | .owned => (programAll driver).Yields after done failed
            | _ => done () after)
          (fun cause device => failed (.stageRead cause.message) { prober with device }) := by
  unfold configure
  rw [yields_bind, yields_get, yields_bind, yields_ofExcept]
  cases checked : prober.checkSession probes with
  | error cause => rfl
  | ok active =>
    dsimp only
    rw [yields_bind, yields_mapError, yields_onDevice, (checkSession_eq_ok checked).1]
    refine yields_congr (fun stage device => ?_) fun _ _ => Iff.rfl
    cases stage with
    | active => simp
    | idle | owned | allocated =>
      simp
      exact Iff.rfl

/-- A session was refused, or taken over at a stage other than active; something about the device is as
before. -/
inductive Taken (view : δ → ω) (told : Stage → Prop) (probes : List Probe) (sampleSizes : SampleSizes)
    (before after : Prober δ) : Prop where
  | refused (device : δ) (kept : view device = view before.device) (shape : after = { before with device })
  | taken (device : δ) (kept : view device = view before.device) (stage : Stage) (isTold : told stage)
    (inactive : stage ≠ .active) (fits : ∀ flow, probes.countP (Flow.wants flow) ≤ (before.queues flow).length)
    (shape : after = { reconfigured probes sampleSizes before with device })

theorem Taken.comp {ω' : Type} {view : δ → ω} {told : Stage → Prop} {probes : List Probe}
    {sampleSizes : SampleSizes} {before after : Prober δ}
    (taken : Taken view told probes sampleSizes before after) (part : ω → ω') :
    Taken (part ∘ view) told probes sampleSizes before after := by
  cases taken with
  | refused device kept shape => exact .refused device (congrArg part kept) shape
  | taken device kept stage isTold inactive fits shape =>
    exact .taken device (congrArg part kept) stage isTold inactive fits shape

/-- However the configuration ends, the session was refused or taken over. -/
theorem yields_configure_taken {view : δ → ω} {told : Stage → Prop} (probes : List Probe)
    (sampleSizes : SampleSizes)
    (stage : driver.stage.Yields prober.device
      (fun stage device => told stage ∧ view device = view prober.device)
      (fun _ device => view device = view prober.device))
    (program : told .owned → ∀ flow channel probe, Keeps view (driver.program flow channel probe)) :
    (configure driver probes sampleSizes).Yields prober
      (fun _ => Taken view told probes sampleSizes prober)
      (fun _ => Taken view told probes sampleSizes prober) := by
  rw [yields_configure]
  cases checked : prober.checkSession probes with
  | error cause => exact .refused prober.device rfl rfl
  | ok active =>
    obtain ⟨-, fits⟩ := checkSession_eq_ok checked
    refine stage.mono (fun stage device read => ?_) (fun cause device kept => .refused device kept rfl)
    obtain ⟨isTold, kept⟩ := read
    cases stage with
    | active => exact .refused device kept rfl
    | idle => exact .taken device kept .idle isTold (by decide) fits rfl
    | allocated => exact .taken device kept .allocated isTold (by decide) fits rfl
    | owned =>
      have programmed : ∀ after : Prober δ, after.fitted =
            ({ reconfigured probes sampleSizes prober with device } : Prober δ).fitted ∧
          view after.device = view device → Taken view told probes sampleSizes prober after := by
        intro after same
        exact .taken after.device (same.2.trans kept) .owned isTold (by decide) fits (eq_of_fitted same.1)
      have both := (keeps_fitted_programAll { reconfigured probes sampleSizes prober with device }).and
        (keeps_device_programAll (program isTold) { reconfigured probes sampleSizes prober with device })
      exact both.mono (fun _ => programmed) fun _ => programmed

/-! ## One step -/

/-- A step into the active stage starts the workers and then asks the driver. -/
theorem yields_move_active {source : Stage} :
    (move driver source .active).Yields prober done failed ↔
      (startStreaming driver).Yields prober
        (fun _ between => (driver.move source .active).Yields between.device
          (fun value device => done value { between with device })
          (fun cause device => failed cause { between with device }))
        failed := by
  unfold move
  simp

/-- Any other step stops the workers and then asks the driver. The channels are programmed when the
driver becomes owned from idle. -/
theorem yields_move_other {source target : Stage} (other : target ≠ .active) :
    (move driver source target).Yields prober done failed ↔
      (driver.move source target).Yields prober.device
        (fun value device =>
          let after := { prober.stopWorkers with device }
          if source = .idle ∧ target = .owned then (programAll driver).Yields after done failed
          else done value after)
        (fun cause device => failed cause { prober.stopWorkers with device }) := by
  unfold move
  simp only [other, ↓reduceIte, yields_bind, yields_modify, yields_onDevice]
  refine yields_congr (fun value device => ?_) fun _ _ => Iff.rfl
  split <;> rfl

end Prober

end DspInspector

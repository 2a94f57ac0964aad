import DspInspector.Proofs.Probe.Quiet
import Mathlib.Data.List.Induction

/-!
# The configuration of workers

A configuration is refused while the driver is active, and workers are started on the way there. What a prober has to
stream is therefore what its workers were started with, as long as every start that fails is taken back. A start is
not taken back if the driver does not tell where it is when the last step has failed: then workers are left that the
next configuration does not see.
-/

namespace DspInspector

open DspInspector.Action

variable {δ : Type}

/-- The driver whose stage cannot be read while its state has a property. The attempt changes the state. -/
def ProbeDevice.obscured (driver : ProbeDevice δ) (hides : δ → Bool) (attempted : δ → δ) : ProbeDevice δ :=
  { driver with
    stage device := if hides device then .error (.driver "busy") (attempted device) else driver.stage device }

/-- The driver tells where it is. -/
def ProbeDevice.Tells (driver : ProbeDevice δ) (device : δ) : Prop :=
  driver.stage.Yields device (fun _ _ => True) fun _ _ => False

instance (driver : ProbeDevice δ) (device : δ) : Decidable (driver.Tells device) :=
  inferInstanceAs (Decidable (driver.stage.Yields device _ _))

theorem ProbeDevice.Honest.obscured {driver : ProbeDevice δ} {stageOf : δ → Stage} (honest : driver.Honest stageOf)
    (hides : δ → Bool) {attempted : δ → δ} (same : ∀ device, stageOf (attempted device) = stageOf device) :
    (driver.obscured hides attempted).Honest stageOf where
  stage device := by
    simp only [ProbeDevice.obscured, Yields]
    by_cases hidden : hides device
    · simp only [hidden, ↓reduceIte]
      exact same device
    · simp only [hidden, Bool.false_eq_true, ↓reduceIte]
      exact honest.stage device
  move := honest.move
  program := honest.program
  openExtraction := honest.openExtraction
  openInjection := honest.openInjection

namespace Prober

variable {driver : ProbeDevice δ} {stageOf : δ → Stage} {prober : Prober δ}

/-! ## Workers -/

/-- A worker is there. -/
def AtWork (prober : Prober δ) : Prop := prober.extractor.isSome = true ∨ prober.injectors.isEmpty = false

instance (prober : Prober δ) : Decidable prober.AtWork := inferInstanceAs (Decidable (_ ∨ _))

theorem Halted.not_atWork (halted : prober.Halted) : ¬ prober.AtWork := by
  rintro (extracts | injects)
  · simp [halted.extractor] at extracts
  · simp [halted.injectors] at injects

theorem Calm.atWork {ω : Type} {view : δ → ω} {after : Prober δ} (calm : Calm view prober after) :
    after.AtWork ↔ prober.AtWork := by
  have length := congrArg List.length calm.injectors
  rw [List.length_map, List.length_map] at length
  unfold AtWork
  rw [calm.extractor, List.isEmpty_eq_false_iff, List.isEmpty_eq_false_iff, ← List.length_pos_iff,
    ← List.length_pos_iff, length]

theorem Taken.atWork {ω : Type} {view : δ → ω} {told : Stage → Prop} {probes : List Probe} {sampleSizes : SampleSizes}
    {after : Prober δ} (taken : Taken view told probes sampleSizes prober after) : after.AtWork ↔ prober.AtWork := by
  cases taken with
  | refused device kept shape => rw [shape]; exact Iff.rfl
  | taken device kept stage isTold inactive fits shape => rw [shape]; exact Iff.rfl

theorem Taken.view_device {ω : Type} {view : δ → ω} {told : Stage → Prop} {probes : List Probe}
    {sampleSizes : SampleSizes} {after : Prober δ} (taken : Taken view told probes sampleSizes prober after) :
    view after.device = view prober.device := by
  cases taken with
  | refused device kept shape => rw [shape]; exact kept
  | taken device kept stage isTold inactive fits shape => rw [shape]; exact kept

/-! ## Starts that are taken back -/

/-- If the call is a start that fails while workers are there and the driver is not active, the driver tells where it
is. -/
def TakesBack (driver : ProbeDevice δ) (stageOf : δ → Stage) (prober : Prober δ) : ProberCall → Prop
  | .setActive true =>
    ((staged driver).walk .streaming).Yields prober (fun _ _ => True) fun _ halfway =>
      halfway.AtWork → stageOf halfway.device ≠ .active → driver.Tells halfway.device
  | _ => True

instance : (call : ProberCall) → Decidable (TakesBack driver stageOf prober call)
  | .setActive true => inferInstanceAs (Decidable (((staged driver).walk .streaming).Yields prober _ _))
  | .setActive false => isTrue trivial
  | .configure _ _ | .isActive | .dequeue _ | .enqueue _ _ | .reading _ | .grant _ _ => isTrue trivial

/-- In the course of the calls no start left workers behind. -/
def AllTakenBack (driver : ProbeDevice δ) (stageOf : δ → Stage) : Prober δ → List ProberCall → Prop
  | _, [] => True
  | prober, call :: calls =>
    TakesBack driver stageOf prober call ∧ AllTakenBack driver stageOf (afterCall driver prober call) calls

instance decidableAllTakenBack : (prober : Prober δ) → (calls : List ProberCall) →
    Decidable (AllTakenBack driver stageOf prober calls)
  | _, [] => isTrue trivial
  | prober, call :: calls =>
    have := decidableAllTakenBack (afterCall driver prober call) calls
    inferInstanceAs (Decidable (_ ∧ _))

theorem afterAll_concat (prober : Prober δ) (calls : List ProberCall) (call : ProberCall) :
    afterAll driver prober (calls ++ [call]) = afterCall driver (afterAll driver prober calls) call := by
  simp [afterAll, List.foldl_append]

theorem allTakenBack_concat {calls : List ProberCall} {call : ProberCall} :
    AllTakenBack driver stageOf prober (calls ++ [call]) ↔
      AllTakenBack driver stageOf prober calls ∧ TakesBack driver stageOf (afterAll driver prober calls) call := by
  induction calls generalizing prober with
  | nil => simp [AllTakenBack, afterAll]
  | cons first calls ih => simp only [List.cons_append, AllTakenBack, ih, afterAll, List.foldl_cons, and_assoc]

/-! ## Workers belong to an active driver -/

/-- Workers are there at the active stage only. -/
def Attached (stageOf : δ → Stage) (prober : Prober δ) : Prop := prober.AtWork → stageOf prober.device = .active

theorem Halted.attached (halted : prober.Halted) : Attached stageOf prober := fun atWork =>
  absurd atWork halted.not_atWork

/-- A stop leaves no worker, unless the driver does not tell where it is; then nothing is done. -/
theorem yields_stop (honest : driver.Honest stageOf) (orderly : Orderly stageOf prober) :
    (setActive driver false).Yields prober (fun _ after => after.Halted) (fun _ after => after.Halted ∨
      ¬ driver.Tells prober.device ∧ ∃ device, stageOf device = stageOf prober.device ∧
        after = { prober with device }) := by
  have read : (onDevice driver.stage).Yields prober
      (fun found after => stageOf after.device = found ∧ Orderly stageOf after)
      (fun _ after => ¬ driver.Tells prober.device ∧ ∃ device, stageOf device = stageOf prober.device ∧
        after = { prober with device }) := by
    have told := honest.stage prober.device
    refine yields_onDevice.mpr ?_
    cases ran : driver.stage prober.device with
    | ok stage device =>
      obtain ⟨isStage, kept⟩ := told.of_ok ran
      simp only [Yields, ran]
      exact ⟨kept.trans isStage.symm, orderly.of_calm (.of_device kept)⟩
    | error cause device =>
      simp only [Yields, ran, ProbeDevice.Tells]
      exact ⟨id, device, told.of_error ran, rfl⟩
  refine yields_bind.mpr (yields_mapError.mpr (read.mono (fun stage between told => ?_) fun _ _ unread => .inr unread))
  exact (yields_walkFrom_rest honest told.1 told.2).mono (fun _ _ halted => halted) fun _ _ halted => .inl halted

theorem attached_stop (honest : driver.Honest stageOf) (orderly : Orderly stageOf prober)
    (untold : ¬ driver.Tells prober.device → Attached stageOf prober) :
    (setActive driver false).Yields prober (fun _ => Attached stageOf) (fun _ => Attached stageOf) := by
  refine (yields_stop honest orderly).mono (fun _ _ halted => halted.attached) fun _ after stuck => ?_
  rcases stuck with halted | ⟨silent, device, kept, rfl⟩
  · exact halted.attached
  · intro atWork
    exact kept.trans (untold silent atWork)

/-- A start leaves workers at the active stage only, if it is taken back. -/
theorem attached_start (honest : driver.Honest stageOf) (orderly : Orderly stageOf prober)
    (takesBack : TakesBack driver stageOf prober (.setActive true)) :
    (setActive driver true).Yields prober (fun _ => Attached stageOf) (fun _ => Attached stageOf) := by
  have walked := yields_walk_orderly honest orderly .streaming
  have start : ((staged driver).walk .streaming).Yields prober (fun _ => Attached stageOf)
      (fun _ halfway => Orderly stageOf halfway ∧ (¬ driver.Tells halfway.device → Attached stageOf halfway)) := by
    refine (walked.and takesBack).mono (fun _ after reached _ => reached.1.1) fun _ halfway stuck => ?_
    refine ⟨stuck.1, fun silent atWork => ?_⟩
    by_contra elsewhere
    exact silent (stuck.2 atWork elsewhere)
  exact Staged.yields_setActive start fun _ halfway stuck => attached_stop honest stuck.1 stuck.2

/-- Every call that takes itself back leaves workers at the active stage only. -/
theorem attached_afterCall (honest : driver.Honest stageOf) (orderly : Orderly stageOf prober)
    (attached : Attached stageOf prober) {call : ProberCall} (takesBack : TakesBack driver stageOf prober call) :
    Attached stageOf (afterCall driver prober call) := by
  by_cases traffic : call.IsTraffic
  · have calm := calm_afterCall honest.keeps_stage orderly.sinks traffic
    intro atWork
    rw [calm.device]
    exact attached (calm.atWork.mp atWork)
  · suffices preserved : (call.act driver).Yields prober (fun _ => Attached stageOf) (fun _ => Attached stageOf)
      from preserved.run
    cases call with
    | configure probes sampleSizes =>
      have kept (after : Prober δ) (taken : Taken stageOf (· = stageOf prober.device) probes sampleSizes prober after) :
          Attached stageOf after := by
        intro atWork
        rw [taken.view_device]
        exact attached (taken.atWork.mp atWork)
      exact (yields_configure_honest honest probes sampleSizes).mono (fun _ => kept) fun _ => kept
    | setActive active =>
      cases active with
      | false => exact attached_stop honest orderly fun _ => attached
      | true => exact attached_start honest orderly takesBack
    | isActive | dequeue | enqueue | reading | grant => exact absurd trivial traffic

/-! ## What workers were started with -/

/-- While the driver is active, no call changes what there is to stream. -/
theorem setup_afterCall (honest : driver.Honest stageOf) (active : stageOf prober.device = .active)
    (call : ProberCall) : (afterCall driver prober call).setup = prober.setup := by
  by_cases traffic : call.IsTraffic
  · exact (calm_of_traffic traffic).setup
  · suffices preserved : (call.act driver).Yields prober (fun _ after => after.setup = prober.setup)
        (fun _ after => after.setup = prober.setup) from preserved.run
    cases call with
    | configure probes sampleSizes =>
      have kept (after : Prober δ) (taken : Taken stageOf (· = stageOf prober.device) probes sampleSizes prober after) :
          after.setup = prober.setup := by
        cases taken with
        | refused device kept shape => rw [shape]; rfl
        | taken device kept stage isTold inactive => exact absurd (isTold.trans active) inactive
      exact (yields_configure_honest honest probes sampleSizes).mono (fun _ => kept) fun _ => kept
    | setActive active => exact keeps_setup_setActive active prober
    | isActive | dequeue | enqueue | reading | grant => exact absurd trivial traffic

/-- Only a start brings workers where none are. -/
theorem start_of_atWork (honest : driver.Honest stageOf) (orderly : Orderly stageOf prober) (none : ¬ prober.AtWork)
    {call : ProberCall} (atWork : (afterCall driver prober call).AtWork) : call = .setActive true := by
  by_contra other
  suffices still : ¬ (afterCall driver prober call).AtWork from still atWork
  by_cases traffic : call.IsTraffic
  · have calm : Calm (fun _ => ()) prober (afterCall driver prober call) := calm_of_traffic traffic
    rwa [calm.atWork]
  · suffices idle : (call.act driver).Yields prober (fun _ after => ¬ after.AtWork) (fun _ after => ¬ after.AtWork)
      from idle.run
    cases call with
    | configure probes sampleSizes =>
      refine (yields_configure_any probes sampleSizes).mono (fun _ after taken => ?_) fun _ after taken => ?_ <;>
        rwa [taken.atWork]
    | setActive active =>
      cases active with
      | true => exact absurd rfl other
      | false =>
        refine (yields_stop honest orderly).mono (fun _ _ halted => halted.not_atWork) fun _ after stuck => ?_
        rcases stuck with halted | ⟨-, device, -, rfl⟩
        · exact halted.not_atWork
        · exact none
    | isActive | dequeue | enqueue | reading | grant => exact absurd trivial traffic

/-- One of the calls started workers with this to stream, where none had been, and workers have been there since. -/
def StartedWith (driver : ProbeDevice δ) (prober : Prober δ) (calls : List ProberCall) (setup : Setup) : Prop :=
  ∃ before later, calls = before ++ .setActive true :: later ∧ ¬ (afterAll driver prober before).AtWork ∧
    (afterAll driver prober before).setup = setup ∧
    ∀ more, more <+: later → (afterAll driver prober (before ++ .setActive true :: more)).AtWork

theorem StartedWith.concat {calls : List ProberCall} {setup : Setup} {call : ProberCall}
    (started : StartedWith driver prober calls setup) (atWork : (afterAll driver prober (calls ++ [call])).AtWork) :
    StartedWith driver prober (calls ++ [call]) setup := by
  obtain ⟨before, later, rfl, none, isSetup, since⟩ := started
  refine ⟨before, later ++ [call], by simp, none, isSetup, fun more isPart => ?_⟩
  rcases List.prefix_concat_iff.mp isPart with rfl | earlier
  · simpa using atWork
  · exact since more earlier

/-- Where a driver is honest and every failed start is taken back, workers are there at the active stage only, and what
there is to stream is what they were started with. -/
theorem frozen_at_work (honest : driver.Honest stageOf) (device : δ) (queueBytes : Nat) (calls : List ProberCall)
    (takenBack : AllTakenBack driver stageOf (create driver device queueBytes) calls)
    (atWork : (afterAll driver (create driver device queueBytes) calls).AtWork) :
    stageOf (afterAll driver (create driver device queueBytes) calls).device = .active ∧
      StartedWith driver (create driver device queueBytes) calls
        (afterAll driver (create driver device queueBytes) calls).setup := by
  have fresh : (create driver device queueBytes).Halted := halted_create device queueBytes
  induction calls using List.reverseRecOn with
  | nil => exact absurd atWork fresh.not_atWork
  | append_singleton calls call ih =>
    obtain ⟨earlier, takesBack⟩ := allTakenBack_concat.mp takenBack
    have orderly : Orderly stageOf (afterAll driver (create driver device queueBytes) calls) :=
      orderly_afterAll honest device queueBytes calls
    have attached : Attached stageOf (afterAll driver (create driver device queueBytes) calls) := fun there =>
      (ih earlier there).1
    have after : afterAll driver (create driver device queueBytes) (calls ++ [call]) =
        afterCall driver (afterAll driver (create driver device queueBytes) calls) call := afterAll_concat _ calls call
    refine ⟨?_, ?_⟩
    · rw [after] at atWork ⊢
      exact attached_afterCall honest orderly attached takesBack atWork
    · by_cases there : (afterAll driver (create driver device queueBytes) calls).AtWork
      · obtain ⟨active, started⟩ := ih earlier there
        rw [after, setup_afterCall honest active call]
        exact started.concat atWork
      · rw [after] at atWork
        obtain rfl := start_of_atWork honest orderly there atWork
        refine ⟨calls, [], rfl, there, ?_, fun more isPart => ?_⟩
        · rw [after]
          exact ((keeps_setup_setActive true (afterAll driver _ calls)).run).symm
        · rw [List.prefix_nil.mp isPart, after]
          exact atWork

/-- Other probes than the sample has. -/
def otherProbes : List Probe := [⟨false, ⟨0⟩, .extract⟩, ⟨true, ⟨7⟩, .inject⟩]

/-- A session is configured and started, and then configured anew. -/
def sampleChange : List ProberCall :=
  [.configure sampleProbes (.ofList [(1, 2)]), .setActive true, .configure otherProbes (.ofList [(1, 4)])]

/-- Nothing fails, and the other session is refused. -/
theorem sample_frozen :
    let prober := create ScriptedProbeDevice.driver sampleDevice 64
    ScriptedProbeDevice.driver.Honest ScriptedProbeDevice.stageOf ∧
      AllTakenBack ScriptedProbeDevice.driver ScriptedProbeDevice.stageOf prober sampleChange ∧
      (afterAll ScriptedProbeDevice.driver prober sampleChange).AtWork ∧
      (afterAll ScriptedProbeDevice.driver prober sampleChange).probes = sampleProbes ∧
      StartedWith ScriptedProbeDevice.driver prober sampleChange
        (afterAll ScriptedProbeDevice.driver prober sampleChange).setup := by
  intro prober
  have honest := ScriptedProbeDevice.scripted_honest
  have takenBack : AllTakenBack ScriptedProbeDevice.driver ScriptedProbeDevice.stageOf prober sampleChange := by
    decide +kernel
  have atWork : (afterAll ScriptedProbeDevice.driver prober sampleChange).AtWork := by decide +kernel
  exact ⟨honest, takenBack, atWork, by decide +kernel,
    (frozen_at_work honest sampleDevice 64 sampleChange takenBack atWork).2⟩

/-- A fault because of which the driver cannot become active, and cannot tell where it is right afterwards. -/
def passingFault : ProbeDevice ScriptedProbeDevice :=
  ScriptedProbeDevice.driver.obscured
    (fun device => device.script.stage = .allocated ∧ device.script.enterFailures.isEmpty = false)
    (fun device => { device with script := { device.script with enterFailures := [] } })

/-- The start fails and is not taken back. The other session is taken over, with the workers of the first one there. -/
theorem thawed_after_fault :
    let prober := create passingFault sampleStubborn 64
    passingFault.Honest ScriptedProbeDevice.stageOf ∧
      (afterAll passingFault prober sampleChange).AtWork ∧
      (afterAll passingFault prober sampleChange).probes = otherProbes ∧
      ¬ StartedWith passingFault prober sampleChange (afterAll passingFault prober sampleChange).setup := by
  intro prober
  refine ⟨ScriptedProbeDevice.scripted_honest.obscured _ fun _ => rfl, by decide +kernel, by decide +kernel, ?_⟩
  rintro ⟨before, later, split, -, isSetup, -⟩
  -- There is only one start, and what it found configured are the probes of the first session.
  have begins : before = [.configure sampleProbes (.ofList [(1, 2)])] := by
    match before, split with
    | [], split => cases split
    | [_], split => cases split; rfl
    | [_, _], split => cases split
    | _ :: _ :: _ :: [], split => cases split
    | _ :: _ :: _ :: _ :: _, split => cases split
  have same : (afterAll passingFault prober before).probes = (afterAll passingFault prober sampleChange).probes :=
    congrArg Setup.probes isSetup
  rw [begins] at same
  revert same
  decide +kernel

end Prober

end DspInspector

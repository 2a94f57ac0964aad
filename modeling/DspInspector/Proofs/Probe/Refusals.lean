import DspInspector.Proofs.Probe.Runs
import DspInspector.Proofs.Probe.Scripted

/-!
# Configurations that fail

A session is refused before anything of it is taken over (`Refused`). The last thing that can fail comes later:
when the driver is owned its channels are programmed at once, and a channel that cannot be programmed leaves the
prober with the session that was reported as failed (`Interrupted`). These are all the ways to fail
(`setup_of_failed_configure`).
-/

namespace DspInspector.Prober

open DspInspector.Action

variable {δ : Type} {driver : ProbeDevice δ} {prober after : Prober δ} {probes : List Probe}
  {sampleSizes : SampleSizes} {cause : ProbeError}

/-- A session is refused for the number of its probes, for the number of those that are active, or for the stage of
the driver. At most the stage was read. -/
inductive Refused (driver : ProbeDevice δ) (probes : List Probe) (before : Prober δ) :
    ProbeError → Prober δ → Prop where
  | count (wrong : probes.length ≠ before.slots) :
    Refused driver probes before (.probeCount before.slots probes.length) before
  | extractions (many : (before.queues .extraction).length < probes.countP Flow.extraction.wants) :
    Refused driver probes before (.tooManyExtractions (probes.countP Flow.extraction.wants)) before
  | injections (many : (before.queues .injection).length < probes.countP Flow.injection.wants) :
    Refused driver probes before (.tooManyInjections (probes.countP Flow.injection.wants)) before
  | unread {cause : ProbeError} {device : δ} (read : driver.stage before.device = .error cause device) :
    Refused driver probes before (.stageRead cause.message) { before with device }
  | active {device : δ} (read : driver.stage before.device = .ok .active device) :
    Refused driver probes before .configWhileActive { before with device }

/-- A session that fits was taken over from an owned driver, which then failed to program a channel. -/
structure Interrupted (driver : ProbeDevice δ) (probes : List Probe) (sampleSizes : SampleSizes) (before : Prober δ)
    (cause : ProbeError) (after : Prober δ) : Prop where
  fits : ∀ flow, probes.countP (Flow.wants flow) ≤ (before.queues flow).length
  programmed : ∃ device, driver.stage before.device = .ok .owned device ∧
    programAll driver { reconfigured probes sampleSizes before with device } = .error cause after
  shape : after = { reconfigured probes sampleSizes before with device := after.device }

theorem Refused.eq_with_device (refused : Refused driver probes prober cause after) :
    after = { prober with device := after.device } := by
  cases refused <;> rfl

/-- Where reading the stage is no more than that, a refusal leaves no trace. -/
theorem Refused.eq_of_keeps (refused : Refused driver probes prober cause after)
    (keeps : Keeps (fun device => device) driver.stage) : after = prober := by
  cases refused with
  | count | extractions | injections => rfl
  | unread read =>
    have same := (keeps prober.device).of_error read
    dsimp only at same
    rw [same]
  | active read =>
    have same := (keeps prober.device).of_ok read
    dsimp only at same
    rw [same]

theorem refused_of_checkSession (failed : prober.checkSession probes = .error cause) :
    Refused driver probes prober cause prober := by
  rcases checkSession_eq_error failed with ⟨rfl, wrong⟩ | ⟨rfl, many⟩ | ⟨rfl, many⟩
  · exact .count wrong
  · exact .extractions many
  · exact .injections many

theorem interrupted_of_programAll {device : δ}
    (fits : ∀ flow, probes.countP (Flow.wants flow) ≤ (prober.queues flow).length)
    (read : driver.stage prober.device = .ok .owned device)
    (failed : programAll driver { reconfigured probes sampleSizes prober with device } = .error cause after) :
    Interrupted driver probes sampleSizes prober cause after where
  fits := fits
  programmed := ⟨device, read, failed⟩
  shape := by
    let taken : Prober δ := { reconfigured probes sampleSizes prober with device }
    have fitted : (programAll driver).Yields taken _ _ := keeps_fitted_programAll taken
    exact eq_of_fitted (fitted.of_error failed)

/-- A configuration succeeds with the session, or it is refused, or it is interrupted. -/
theorem yields_configure_cases :
    (configure driver probes sampleSizes).Yields prober
      (fun _ after => after = { reconfigured probes sampleSizes prober with device := after.device })
      (fun cause after => Refused driver probes prober cause after ∨
        Interrupted driver probes sampleSizes prober cause after) := by
  rw [yields_configure]
  cases checked : prober.checkSession probes with
  | error cause => exact .inl (refused_of_checkSession checked)
  | ok active =>
    obtain ⟨-, fits⟩ := checkSession_eq_ok checked
    cases read : driver.stage prober.device with
    | error cause device =>
      simp only [Yields, read]
      exact .inl (.unread read)
    | ok stage device =>
      rw [yields_of_ok read]
      cases stage with
      | active => exact .inl (.active read)
      | idle | allocated => rfl
      | owned =>
        let taken : Prober δ := { reconfigured probes sampleSizes prober with device }
        cases ran : programAll driver taken with
        | ok value after =>
          simp only [Yields, taken, ran]
          exact eq_of_fitted ((keeps_fitted_programAll taken).of_ok ran)
        | error cause after =>
          simp only [Yields, taken, ran]
          exact .inr (interrupted_of_programAll fits read ran)

/-- Another session is another setup. -/
theorem setup_reconfigured_iff (sound : prober.setup.Sound) :
    (reconfigured probes sampleSizes prober).setup = prober.setup ↔
      probes = prober.probes ∧ sampleSizes = prober.sampleSizes := by
  constructor
  · intro same
    exact ⟨congrArg Setup.probes same, congrArg Setup.sampleSizes same⟩
  · rintro ⟨rfl, rfl⟩
    refine setup_congr rfl rfl (fun flow => ?_) fun flow => congrArg List.length (queues_reconfigured _ _ prober flow)
    refine Eq.trans ?_ (sound flow).1.symm
    cases flow <;> rfl

/-- After any run, a configuration that fails was refused or interrupted. If it was refused, nothing but the device is
different, and not even that where reading the stage does not change it. If it was interrupted, a channel of an owned
driver could not be programmed, and the session is there: probes, sample sizes and channel maps are as before only if
it is the session that was there. -/
theorem setup_of_failed_configure (driver : ProbeDevice δ) (device : δ) (queueBytes : Nat) (calls : List ProberCall)
    (probes : List Probe) (sampleSizes : SampleSizes) :
    let prober := afterAll driver (create driver device queueBytes) calls
    (configure driver probes sampleSizes).Yields prober
      (fun _ after => after = { reconfigured probes sampleSizes prober with device := after.device })
      fun cause after =>
        Refused driver probes prober cause after ∧ after = { prober with device := after.device } ∧
          (Keeps (fun device => device) driver.stage → after = prober) ∨
        Interrupted driver probes sampleSizes prober cause after ∧
          (after.setup = prober.setup ↔ probes = prober.probes ∧ sampleSizes = prober.sampleSizes) := by
  intro prober
  have sound : prober.setup.Sound := sound_afterAll device queueBytes calls
  refine yields_configure_cases.mono (fun _ _ taken => taken) fun cause after failed => ?_
  rcases failed with refused | interrupted
  · exact .inl ⟨refused, refused.eq_with_device, refused.eq_of_keeps⟩
  · refine .inr ⟨interrupted, ?_⟩
    have same : after.setup = (reconfigured probes sampleSizes prober).setup := by
      rw [interrupted.shape]
      exact setup_of_fitted rfl
    rw [same]
    exact setup_reconfigured_iff sound

/-- An owned driver whose only channel cannot be programmed. -/
def sampleJammed : ScriptedProbeDevice :=
  { script :=
    { extractionChannels := 1, injectionChannels := 0, stage := .owned
      channelFailures := [((.extraction, 0), .driver "stuck")] } }

/-- The configuration fails, the new session is there all the same, and a slot that was unknown has a queue. -/
theorem session_kept_after_failure :
    let fresh := create ScriptedProbeDevice.driver sampleJammed 64
    (dequeue 0).Yields fresh (fun _ _ => False) (fun cause _ => cause = .unknownProbe 0) ∧
    (configure ScriptedProbeDevice.driver [⟨true, ⟨5⟩, .extract⟩] .empty).Yields fresh (fun _ _ => False)
      fun _ after => fresh.probes = [Probe.disabled] ∧ after.probes = [⟨true, ⟨5⟩, .extract⟩] ∧
        (dequeue 0).Yields after (fun _ _ => True) (fun _ _ => False) := by
  decide +kernel

end DspInspector.Prober

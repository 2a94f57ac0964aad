import DspInspector.Proofs.Probe.Steps
import DspInspector.Proofs.Probe.Traffic
import DspInspector.Proofs.Probe.Walks

/-!
# Runs of a prober

A run is a list of calls, each begun where the one before ended, whether that succeeded or not. What every
call preserves holds after the whole run (`afterAll_induction`). Apart from a configuration, a start and a
stop every call is traffic (`calm_afterCall`). Whatever the driver does, the channels in use are always those
of the probes that are configured (`sound_afterAll`).
-/

namespace DspInspector

open DspInspector.Action

variable {δ ω : Type}

/-- One thing done to a prober, by a client or by a stream. -/
inductive ProberCall where
  | configure (probes : List Probe) (sampleSizes : SampleSizes)
  | setActive (active : Bool)
  | isActive
  | dequeue (slot : Nat)
  | enqueue (slot : Nat) (block : List UInt8)
  | reading (reading : Reading)
  | grant (grant : Grant) (channel : Nat)

namespace ProberCall

/-- What a call does; its result is not looked at. -/
def act (driver : ProbeDevice δ) : ProberCall → Action ProbeError (Prober δ) Unit
  | .configure probes sampleSizes => Prober.configure driver probes sampleSizes
  | .setActive active => Prober.setActive driver active
  | .isActive => do
    let _ ← Prober.isActive driver
  | .dequeue slot => do
    let _ ← Prober.dequeue slot
  | .enqueue slot block => do
    let _ ← Prober.enqueue slot block
  | .reading input => modify (Prober.receiveReading input)
  | .grant room channel => modify (Prober.receiveGrant room channel)

/-- A call that neither configures, starts nor stops. -/
def IsTraffic : ProberCall → Prop
  | .configure _ _ | .setActive _ => False
  | _ => True

end ProberCall

namespace Prober

variable {driver : ProbeDevice δ} {prober : Prober δ} {view : δ → ω}

/-- The prober after a call. -/
def afterCall (driver : ProbeDevice δ) (prober : Prober δ) (call : ProberCall) : Prober δ :=
  ((call.act driver).run prober).2

/-- The prober after some calls. -/
def afterAll (driver : ProbeDevice δ) (prober : Prober δ) (calls : List ProberCall) : Prober δ :=
  calls.foldl (afterCall driver) prober

/-- What every call preserves holds after any number of calls. -/
theorem afterAll_induction {motive : Prober δ → Prop}
    (step : ∀ prober call, motive prober → motive (afterCall driver prober call)) (calls : List ProberCall) :
    ∀ prober, motive prober → motive (afterAll driver prober calls) := by
  induction calls with
  | nil => exact fun _ begins => begins
  | cons call calls ih => exact fun prober begins => ih (afterCall driver prober call) (step prober call begins)

/-! ## Traffic -/

theorem calm_isActive (keeps : Keeps view driver.stage) :
    (isActive driver).Yields prober (fun _ => Calm view prober) (fun _ => Calm view prober) := by
  unfold isActive Staged.isActive Staged.readStage staged
  rw [yields_bind, yields_mapError, yields_onDevice]
  refine (keeps prober.device).mono (fun stage device kept => ?_) (fun cause device kept => .of_device kept)
  cases stage <;> exact Calm.of_device kept

/-- Traffic is calm. -/
theorem calm_afterCall (stage : Keeps view driver.stage) (keep : SinksKeep view prober) {call : ProberCall}
    (traffic : call.IsTraffic) : Calm view prober (afterCall driver prober call) := by
  suffices calm : (call.act driver).Yields prober (fun _ => Calm view prober) (fun _ => Calm view prober) from
    calm.run
  cases call with
  | configure probes sampleSizes => exact traffic.elim
  | setActive active => exact traffic.elim
  | isActive => exact yields_bind.mpr (calm_isActive stage)
  | dequeue slot => exact yields_bind.mpr (calm_dequeue slot)
  | enqueue slot block => exact yields_bind.mpr (calm_enqueue slot block)
  | reading reading => exact calm_receiveReading reading
  | grant grant channel => exact calm_receiveGrant keep grant channel

/-- Traffic is calm whatever the driver does. -/
theorem calm_of_traffic {call : ProberCall} (traffic : call.IsTraffic) :
    Calm (fun _ => ()) prober (afterCall driver prober call) :=
  calm_afterCall (keeps_nothing driver.stage) (fun injector _ bytes => keeps_nothing (injector.sink.write bytes))
    traffic

/-- Whatever the driver does, a session is refused or taken over. -/
theorem yields_configure_any (probes : List Probe) (sampleSizes : SampleSizes) :
    (configure driver probes sampleSizes).Yields prober
      (fun _ => Taken (fun _ => ()) (fun _ => True) probes sampleSizes prober)
      (fun _ => Taken (fun _ => ()) (fun _ => True) probes sampleSizes prober) :=
  yields_configure_taken probes sampleSizes (yields_of_forall (fun _ _ => ⟨trivial, rfl⟩) fun _ _ => rfl)
    fun _ flow channel probe => keeps_nothing (driver.program flow channel probe)

/-! ## Sinks -/

/-- The workers never get other sinks than those the driver opens for them. -/
theorem yields_move_sinks (injects : driver.InjectionKeeps view) (keep : SinksKeep view prober)
    (source target : Stage) :
    (move driver source target).Yields prober (fun _ => SinksKeep view) (fun _ => SinksKeep view) := by
  by_cases isActive : target = .active
  · subst isActive
    rw [yields_move_active]
    refine (yields_startStreaming_sinks injects keep).mono (fun _ between sinks => ?_) fun _ _ sinks => sinks
    exact yields_of_forall (fun _ _ => sinks) fun _ _ => sinks
  · rw [yields_move_other isActive]
    have stopped (after : Prober δ) (same : after.fitted = prober.stopWorkers.fitted) : SinksKeep view after := by
      rw [eq_of_fitted same]
      intro injector member
      cases member
    refine yields_of_forall (fun _ device => ?_) fun _ device => stopped _ rfl
    dsimp only
    split
    · exact (keeps_fitted_programAll { prober.stopWorkers with device }).mono (fun _ => stopped) fun _ => stopped
    · exact stopped _ rfl

/-- What the driver leaves alone in all it does but programming, every step leaves alone but the first. -/
theorem yields_move_unprogrammed (moves : ∀ source target, Keeps view (driver.move source target))
    (opens : Keeps view driver.openExtraction) (injects : driver.InjectionKeeps view) (keep : SinksKeep view prober)
    {source target : Stage} (other : ¬ (source = .idle ∧ target = .owned)) :
    (move driver source target).Yields prober (fun _ after => view after.device = view prober.device)
      (fun _ after => view after.device = view prober.device) := by
  by_cases isActive : target = .active
  · subst isActive
    rw [yields_move_active]
    refine (yields_startStreaming_keeps injects opens keep).mono (fun _ between kept => ?_) fun _ _ kept => kept.2.1
    obtain ⟨-, kept, -⟩ := kept
    refine (moves source .active between.device).mono (fun _ _ same => ?_) fun _ _ same => ?_
    · exact same.trans kept
    · exact same.trans kept
  · rw [yields_move_other isActive]
    refine (moves source target prober.device).mono (fun _ device same => ?_) fun _ _ same => same
    dsimp only
    rw [if_neg other]
    exact same

theorem yields_setActive_sinks (injects : driver.InjectionKeeps view) (keep : SinksKeep view prober)
    (active : Bool) :
    (setActive driver active).Yields prober (fun _ => SinksKeep view) (fun _ => SinksKeep view) := by
  refine Staged.yields_setActive_of_preserved ?_ ?_ active keep
  · exact fun _ keep => yields_onDevice.mpr (yields_of_forall (fun _ _ => keep) fun _ _ => keep)
  · exact fun source target _ keep => yields_move_sinks injects keep source target

theorem sinksKeep_afterCall (injects : driver.InjectionKeeps view) (keep : SinksKeep view prober)
    (call : ProberCall) : SinksKeep view (afterCall driver prober call) := by
  by_cases traffic : call.IsTraffic
  · exact (calm_of_traffic traffic).sinksKeep keep
  · suffices preserved : (call.act driver).Yields prober (fun _ => SinksKeep view) (fun _ => SinksKeep view)
      from preserved.run
    cases call with
    | configure probes sampleSizes =>
      have kept (after : Prober δ) (taken : Taken (fun _ => ()) (fun _ => True) probes sampleSizes prober after) :
          SinksKeep view after := by
        cases taken with
        | refused device _ shape => exact shape ▸ keep
        | taken device _ stage _ _ _ shape => exact shape ▸ keep
      exact (yields_configure_any probes sampleSizes).mono (fun _ => kept) fun _ => kept
    | setActive active => exact yields_setActive_sinks injects keep active
    | isActive | dequeue | enqueue | reading | grant => exact absurd trivial traffic

/-- After any run the sinks of all workers leave alone what the driver promises of them. -/
theorem sinksKeep_afterAll (injects : driver.InjectionKeeps view) (device : δ) (queueBytes : Nat)
    (calls : List ProberCall) :
    SinksKeep view (afterAll driver (create driver device queueBytes) calls) :=
  afterAll_induction (motive := SinksKeep view) (fun _ call keep => sinksKeep_afterCall injects keep call) calls _
    nofun

/-! ## Channels in use -/

/-- Each channel in use belongs to a probe that is configured, and there are enough channels. -/
def Setup.Sound (setup : Setup) : Prop :=
  ∀ flow, setup.channelMap flow = Prober.compact (ActiveSlots.slotsWhere flow.wants setup.probes) ∧
    setup.probes.countP flow.wants ≤ setup.channels flow

theorem Setup.Sound.channel {setup : Setup} (sound : setup.Sound) {flow : Flow} {slot : Nat} {probe : Probe}
    (found : setup.probes[slot]? = some probe) (wanted : flow.wants probe = true) :
    ∃ channel, (setup.channelMap flow).find? slot = some channel ∧ channel < setup.probes.countP flow.wants := by
  obtain ⟨channel, inside, isSlot⟩ :=
    List.getElem_of_mem (ActiveSlots.mem_slotsWhere.mpr ⟨probe, found, wanted⟩)
  refine ⟨channel, ?_, ?_⟩
  · rw [(sound flow).1, find?_compact ActiveSlots.pairwise_slotsWhere]
    exact List.getElem?_eq_some_iff.mpr ⟨inside, isSlot⟩
  · rwa [ActiveSlots.length_slotsWhere] at inside

/-- A channel in use is that of a probe. -/
theorem Setup.Sound.probe {setup : Setup} (sound : setup.Sound) {flow : Flow} {slot channel : Nat}
    (found : (setup.channelMap flow).find? slot = some channel) :
    ∃ probe, setup.probes[slot]? = some probe ∧ flow.wants probe = true := by
  rw [(sound flow).1, find?_compact ActiveSlots.pairwise_slotsWhere] at found
  exact ActiveSlots.mem_slotsWhere.mp (List.mem_of_getElem? found)

/-- No two slots have the same channel. -/
theorem Setup.Sound.injective {setup : Setup} (sound : setup.Sound) {flow : Flow} {slot other channel : Nat}
    (found : (setup.channelMap flow).find? slot = some channel)
    (found' : (setup.channelMap flow).find? other = some channel) : slot = other := by
  rw [(sound flow).1, find?_compact ActiveSlots.pairwise_slotsWhere] at found found'
  exact Option.some.inj (found.symm.trans found')

theorem Setup.Sound.values {setup : Setup} (sound : setup.Sound) (flow : Flow) :
    (setup.channelMap flow).values = List.range (setup.probes.countP flow.wants) := by
  rw [(sound flow).1, values_compact ActiveSlots.pairwise_slotsWhere, ActiveSlots.length_slotsWhere]

theorem Setup.Sound.inUse {setup : Setup} (sound : setup.Sound) (flow : Flow) :
    (setup.channelMap flow).isEmpty = false ↔ ∃ probe ∈ setup.probes, flow.wants probe = true := by
  rw [(sound flow).1, isEmpty_compact ActiveSlots.pairwise_slotsWhere, ← List.countP_pos_iff,
    ← ActiveSlots.length_slotsWhere, List.length_pos_iff, List.isEmpty_eq_false_iff]

/-- A step does not change what there is to stream. -/
theorem keeps_setup_move (source target : Stage) : Keeps setup (move driver source target) := by
  intro prober
  by_cases isActive : target = .active
  · subst isActive
    rw [yields_move_active]
    have sinks : SinksKeep (fun _ => ()) prober := fun injector _ bytes => keeps_nothing (injector.sink.write bytes)
    have started :=
      yields_startStreaming_keeps driver.injectionKeeps_nothing (keeps_nothing driver.openExtraction) sinks
    refine started.mono (fun _ between kept => ?_) (fun _ _ kept => kept.1)
    exact yields_of_forall (fun _ _ => kept.1) fun _ _ => kept.1
  · rw [yields_move_other isActive]
    have stopped := setup_stopWorkers prober
    refine yields_of_forall (fun _ device => ?_) fun _ device => stopped
    dsimp only
    split
    · have programmed (after : Prober δ) (same : after.fitted = prober.stopWorkers.fitted) :
          after.setup = prober.setup := by
        rw [eq_of_fitted same]
        exact stopped
      refine (keeps_fitted_programAll { prober.stopWorkers with device }).mono ?_ ?_
      · exact fun _ => programmed
      · exact fun _ => programmed
    · exact stopped

/-- Neither does a start or a stop. -/
theorem keeps_setup_setActive (active : Bool) : Keeps setup (setActive driver active) := by
  intro prober
  refine Staged.yields_setActive_of_preserved ?_ ?_ active rfl
  · exact fun _ same => yields_onDevice.mpr (yields_of_forall (fun _ _ => same) fun _ _ => same)
  · intro source target state same
    rw [← same]
    exact keeps_setup_move source target state

theorem sound_reconfigured {probes : List Probe} {sampleSizes : SampleSizes}
    (fits : ∀ flow, probes.countP (Flow.wants flow) ≤ (prober.queues flow).length) :
    (reconfigured probes sampleSizes prober).setup.Sound := by
  intro flow
  cases flow with
  | extraction => exact ⟨rfl, fits .extraction⟩
  | injection => exact ⟨rfl, fits .injection⟩

theorem sound_create (device : δ) (queueBytes : Nat) : (create driver device queueBytes).setup.Sound := by
  have none (flow : Flow) (count : Nat) :
      (List.replicate count Probe.disabled).countP flow.wants = 0 := by
    rw [List.countP_replicate]
    cases flow <;> rfl
  have empty (flow : Flow) (count : Nat) :
      ActiveSlots.slotsWhere flow.wants (List.replicate count Probe.disabled) = [] := by
    rw [← List.length_eq_zero_iff, ActiveSlots.length_slotsWhere]
    exact none flow count
  intro flow
  refine ⟨?_, ?_⟩
  · change _ = compact (ActiveSlots.slotsWhere flow.wants (List.replicate _ Probe.disabled))
    rw [empty flow]
    cases flow <;> rfl
  · change (List.replicate _ Probe.disabled).countP flow.wants ≤ _
    rw [none flow]
    exact Nat.zero_le _

theorem sound_afterCall (sound : prober.setup.Sound) (call : ProberCall) :
    (afterCall driver prober call).setup.Sound := by
  by_cases traffic : call.IsTraffic
  · rw [(calm_of_traffic traffic).setup]
    exact sound
  · suffices preserved : (call.act driver).Yields prober (fun _ after => after.setup.Sound)
        (fun _ after => after.setup.Sound) from preserved.run
    cases call with
    | configure probes sampleSizes =>
      have kept (after : Prober δ)
          (taken : Taken (fun _ => ()) (fun _ => True) probes sampleSizes prober after) : after.setup.Sound := by
        cases taken with
        | refused device _ shape =>
          rw [shape]
          exact sound
        | taken device _ stage _ inactive fits shape =>
          rw [shape]
          exact sound_reconfigured fits
      exact (yields_configure_any probes sampleSizes).mono (fun _ => kept) fun _ => kept
    | setActive active =>
      refine (keeps_setup_setActive active prober).mono (fun _ after same => ?_) (fun _ after same => ?_)
      · rwa [same]
      · rwa [same]
    | isActive | dequeue | enqueue | reading | grant => exact absurd trivial traffic

/-- After any run the channels in use are those of the configured probes. -/
theorem sound_afterAll (device : δ) (queueBytes : Nat) (calls : List ProberCall) :
    (afterAll driver (create driver device queueBytes) calls).setup.Sound :=
  afterAll_induction (motive := fun prober => prober.setup.Sound) (fun _ call sound => sound_afterCall sound call)
    calls _ (sound_create device queueBytes)

end Prober

end DspInspector

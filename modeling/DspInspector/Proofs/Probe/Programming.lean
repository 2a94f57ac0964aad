import DspInspector.Proofs.Probe.Ledger
import DspInspector.Proofs.Probe.Scripted

/-!
# What the channels are told

Each channel is to serve the probe that has it in the session, and a disabled one if no probe has it
(`assigned`). The channels are told so when the driver becomes owned from idle, and at once when a session
is configured while the driver is owned. A start that begins at a later stage leaves them as they are; so
after a start the channels have been told if and only if it began at idle or they had been before
(`programmed_of_started`). A driver that cannot be taken back after a failed start is enough for the next
one to succeed with a channel that was never told (`not_programmed_after_failed_start`).
-/

namespace DspInspector

open DspInspector.Action

variable {δ : Type}

namespace Prober

variable {driver : ProbeDevice δ} {stageOf : δ → Stage} {prober before after : Prober (Ledger δ)}

/-- The probe that a channel is to serve: the channels go to the probes of their flow in the order of the
slots, and those that are left get a disabled probe. -/
def assigned (probes : List Probe) (flow : Flow) (channel : Nat) : Probe :=
  (probes.filter flow.wants).getD channel Probe.disabled

/-! ## What programming says -/

/-- One slot after the other programs its channel. -/
private theorem getElem?_programmed (probes : List Probe) (slots : List Nat)
    (present : ∀ slot ∈ slots, ∃ probe, probes[slot]? = some probe) :
    ∀ (first : Nat) (start : List Probe) (channel : Nat),
      ((slots.zipIdx first).foldl (fun programmed entry =>
        match probes[entry.1]? with
        | some probe => programmed.set entry.2 probe
        | none => programmed) start)[channel]? =
      if first ≤ channel ∧ channel < first + slots.length ∧ channel < start.length then
        slots[channel - first]?.bind (probes[·]?)
      else start[channel]? := by
  induction slots with
  | nil =>
    intro first start channel
    rw [if_neg (by simp only [List.length_nil]; omega)]
    rfl
  | cons slot slots ih =>
    intro first start channel
    obtain ⟨probe, found⟩ := present slot List.mem_cons_self
    rw [List.zipIdx_cons, List.foldl_cons, ih fun other member => present other (List.mem_cons_of_mem _ member)]
    simp only [found, List.length_set, List.length_cons]
    -- The later slots write above this channel, so what this slot wrote stays.
    by_cases here : channel = first
    · subst here
      rw [if_neg (by omega), List.getElem?_set_self']
      by_cases inside : channel < start.length
      · simp [inside, found]
      · simp [inside]
    · have apart : first ≠ channel := fun same => here same.symm
      rw [List.getElem?_set_ne apart]
      by_cases later : first + 1 ≤ channel ∧ channel < first + 1 + slots.length ∧ channel < start.length
      · have place : channel - first = channel - (first + 1) + 1 := by omega
        rw [if_pos later, if_pos (by omega), place, List.getElem?_cons_succ]
      · rw [if_neg later, if_neg (by omega)]

theorem length_channelProbes (probes : List Probe) (map : ChannelMap) (count : Nat) :
    (channelProbes probes map count).length = count := by
  unfold channelProbes
  refine List.foldlRecOn (motive := fun (programmed : List Probe) => programmed.length = count) _ _
    List.length_replicate ?_
  rintro programmed length ⟨slot, channel⟩ -
  dsimp only
  cases probes[slot]? with
  | none => exact length
  | some probe => exact List.length_set.trans length

/-- What each channel is told is the probe it is to serve. -/
theorem channelProbes_eq {setup : Setup} (sound : setup.Sound) {flow : Flow} {channel : Nat}
    (inside : channel < setup.channels flow) :
    (channelProbes setup.probes (setup.channelMap flow) (setup.channels flow))[channel]? =
      some (assigned setup.probes flow channel) := by
  have present : ∀ slot ∈ ActiveSlots.slotsWhere flow.wants setup.probes,
      ∃ probe, setup.probes[slot]? = some probe := by
    intro slot member
    obtain ⟨probe, found, -⟩ := ActiveSlots.mem_slotsWhere.mp member
    exact ⟨probe, found⟩
  have served : (ActiveSlots.slotsWhere flow.wants setup.probes)[channel]?.bind (setup.probes[·]?) =
      (setup.probes.filter flow.wants)[channel]? := by
    have same := congrArg (·[channel]?.bind id) (@ActiveSlots.map_slotsWhere flow.wants setup.probes)
    simpa [List.getElem?_map, Option.bind_map] using same
  have count : (ActiveSlots.slotsWhere flow.wants setup.probes).length = (setup.probes.filter flow.wants).length := by
    rw [ActiveSlots.length_slotsWhere, List.countP_eq_length_filter]
  rw [channelProbes, (sound flow).1, entries_compact ActiveSlots.pairwise_slotsWhere]
  refine (getElem?_programmed setup.probes _ present 0 _ channel).trans ?_
  rw [assigned, List.getD_eq_getElem?_getD, Nat.sub_zero, served, count]
  by_cases inUse : channel < (setup.probes.filter flow.wants).length
  · simp [inUse, inside]
  · simp [inUse, inside]

/-! ## What the ledger says afterwards -/

/-- Each channel was last told, with success, which probe it is to serve. -/
def Programmed (prober : Prober (Ledger δ)) : Prop :=
  ∀ flow channel, channel < (prober.queues flow).length →
    prober.device.told flow channel = some (assigned prober.probes flow channel)

theorem Programmed.congr (setup : after.setup = before.setup) (told : after.device.told = before.device.told) :
    after.Programmed ↔ before.Programmed := by
  have probes : after.probes = before.probes := congrArg Setup.probes setup
  have channels (flow : Flow) : (after.queues flow).length = (before.queues flow).length :=
    congrFun (congrArg Setup.channels setup) flow
  simp only [Programmed, told, probes, channels]

/-- Channels are noted one after the other, the others are not touched. -/
theorem yields_programFrom (flow : Flow) (probes : List Probe) : ∀ (channel : Nat) (prober : Prober (Ledger δ)),
    (programFrom driver.ledger flow channel probes).Yields prober
      (fun _ after => ∀ other place, after.device.told other place =
        if other = flow ∧ channel ≤ place ∧ place < channel + probes.length then probes[place - channel]?
        else prober.device.told other place)
      (fun _ _ => True) := by
  induction probes with
  | nil =>
    intro channel prober other place
    rw [if_neg (by simp only [List.length_nil]; omega)]
  | cons probe probes ih =>
    intro channel prober
    rw [programFrom, yields_bind, yields_mapError, yields_onDevice]
    refine yields_bind.mpr (yields_onPart.mpr (yields_of_forall (fun _ device => ?_) fun _ _ => trivial))
    refine (ih (channel + 1) _).mono (fun _ after rest => ?_) fun _ _ _ => trivial
    intro other place
    rw [rest other place]
    simp only [Ledger.program, List.length_cons]
    by_cases isFlow : other = flow
    · by_cases here : place = channel
      · subst here
        rw [if_neg (by omega), if_pos ⟨isFlow, rfl⟩, if_pos ⟨isFlow, by omega⟩]
        simp
      · by_cases later : channel + 1 ≤ place ∧ place < channel + 1 + probes.length
        · have index : place - channel = place - (channel + 1) + 1 := by omega
          rw [if_pos ⟨isFlow, later⟩, if_pos ⟨isFlow, by omega⟩, index, List.getElem?_cons_succ]
        · rw [if_neg (by omega), if_neg (by omega), if_neg (by omega)]
    · simp [isFlow]

theorem yields_program (flow : Flow) :
    (program driver.ledger flow).Yields prober
      (fun _ after => ∀ other place, after.device.told other place =
        if other = flow ∧ place < (prober.queues flow).length then
          (channelProbes prober.probes (prober.channelMap flow) (prober.queues flow).length)[place]?
        else prober.device.told other place)
      (fun _ _ => True) := by
  refine yields_bind.mpr ((yields_programFrom flow _ 0 prober).mono (fun _ after told => ?_) fun _ _ _ => trivial)
  intro other place
  simpa [length_channelProbes] using told other place

/-- Programming every channel tells each which probe it is to serve. -/
theorem yields_programAll_programmed (sound : prober.setup.Sound) :
    (programAll driver.ledger).Yields prober (fun _ after => after.Programmed) (fun _ _ => True) := by
  refine yields_bind.mpr (((yields_program .extraction).and (keeps_fitted_program .extraction prober)).mono
    (fun _ between first => ?_) fun _ _ _ => trivial)
  obtain ⟨first, same⟩ := first
  refine ((yields_program .injection).and (keeps_fitted_program .injection between)).mono (fun _ after second => ?_)
    fun _ _ _ => trivial
  obtain ⟨second, same'⟩ := second
  have setup : between.setup = prober.setup := setup_of_fitted same
  have setup' : after.setup = prober.setup := (setup_of_fitted same').trans setup
  intro flow channel inside
  have inside : channel < prober.setup.channels flow := by
    rw [← setup']
    exact inside
  rw [show after.probes = prober.probes from congrArg Setup.probes setup']
  cases flow with
  | injection =>
    have told := second .injection channel
    rw [← setup] at sound inside
    rw [if_pos ⟨rfl, inside⟩] at told
    rw [told, ← show between.probes = prober.probes from congrArg Setup.probes setup]
    exact channelProbes_eq sound inside
  | extraction =>
    have told := first .extraction channel
    rw [if_pos ⟨rfl, inside⟩] at told
    have kept := second .extraction channel
    rw [if_neg (fun both => by cases both.1)] at kept
    rw [kept, told]
    exact channelProbes_eq sound inside

/-! ## Steps -/

/-- Every step but the first leaves the channels as they are. -/
theorem yields_move_told (sinks : SinksKeep Ledger.told prober) {source target : Stage}
    (other : ¬ (source = .idle ∧ target = .owned)) :
    (move driver.ledger source target).Yields prober
      (fun _ after => after.device.told = prober.device.told)
      (fun _ after => after.device.told = prober.device.told) := by
  have moves (source target : Stage) : Keeps Ledger.told (driver.ledger.move source target) :=
    Ledger.keeps_unnoted (fun _ _ => rfl) (driver.move source target)
  have opens : Keeps Ledger.told driver.ledger.openExtraction :=
    (Ledger.keeps_unnoted (fun _ _ => rfl) driver.openExtraction).bind fun _ _ => rfl
  exact yields_move_unprogrammed moves opens (ProbeDevice.injectionKeeps_ledger fun _ _ => rfl) sinks other

/-- The first step tells every channel which probe it is to serve. -/
theorem yields_move_programmed (sound : prober.setup.Sound) :
    (move driver.ledger .idle .owned).Yields prober (fun _ after => after.Programmed) (fun _ _ => True) := by
  rw [yields_move_other (by decide)]
  refine yields_of_forall (fun _ device => ?_) fun _ _ => trivial
  rw [if_pos ⟨rfl, rfl⟩]
  refine yields_programAll_programmed ?_
  have stopped : ({ prober.stopWorkers with device } : Prober (Ledger δ)).setup = prober.setup :=
    (setup_of_fitted rfl).trans (setup_stopWorkers prober)
  rw [stopped]
  exact sound

/-- A start on its way: whether the channels have been told depends on where it began. -/
structure Rising (stageOf : δ → Stage) (begun : Prober (Ledger δ)) (stage : Stage)
    (state : Prober (Ledger δ)) : Prop where
  there : stageOf state.device.device = stage
  orderly : Orderly (stageOf ∘ Ledger.device) state
  sinks : SinksKeep Ledger.told state
  sound : state.setup.Sound
  lowest : stage = .idle → stageOf begun.device.device = .idle
  told : state.Programmed ↔ stageOf begun.device.device = .idle ∧ stage ≠ .idle ∨ begun.Programmed

theorem Rising.move {begun state : Prober (Ledger δ)} {source target : Stage} (honest : driver.Honest stageOf)
    (rising : Rising stageOf begun source state) (next : source.next .streaming = some target) :
    (move driver.ledger source target).Yields state (fun _ => Rising stageOf begun target) (fun _ _ => True) := by
  have late : target = .active → stageOf state.device.device = .allocated := by
    rintro rfl
    rw [rising.there]
    exact Stage.allocated_of_next next
  have above : target ≠ .idle := by
    rintro rfl
    cases source <;> cases next
  have injects : driver.ledger.InjectionKeeps Ledger.told := ProbeDevice.injectionKeeps_ledger fun _ _ => rfl
  have arrives := (yields_move_orderly honest.ledger rising.orderly.sinks late).and
    ((yields_move_sinks injects rising.sinks source target).and (keeps_setup_move source target state))
  by_cases first : source = .idle ∧ target = .owned
  · obtain ⟨rfl, rfl⟩ := first
    refine (arrives.and (yields_move_programmed rising.sound)).mono (fun _ after reached => ?_) fun _ _ _ => trivial
    obtain ⟨⟨⟨there, orderly⟩, sinks, setup⟩, programmed⟩ := reached
    refine ⟨there, orderly, sinks, setup ▸ rising.sound, fun same => absurd same above, ?_⟩
    exact iff_of_true programmed (.inl ⟨rising.lowest rfl, above⟩)
  · refine (arrives.and (yields_move_told rising.sinks first)).mono (fun _ after reached => ?_) fun _ _ _ => trivial
    obtain ⟨⟨⟨there, orderly⟩, sinks, setup⟩, told⟩ := reached
    have higher : source ≠ .idle := by
      rintro rfl
      cases next
      exact first ⟨rfl, rfl⟩
    refine ⟨there, orderly, sinks, setup ▸ rising.sound, fun same => absurd same above, ?_⟩
    rw [Programmed.congr setup told, rising.told]
    simp [higher, above]

/-- After a start that succeeds the channels have been told if and only if it began at idle or they had been
before. -/
theorem yields_start_programmed (honest : driver.Honest stageOf)
    (orderly : Orderly (stageOf ∘ Ledger.device) prober) (sound : prober.setup.Sound)
    (sinks : SinksKeep Ledger.told prober) :
    (setActive driver.ledger true).Yields prober
      (fun _ after => after.Programmed ↔ stageOf prober.device.device = .idle ∨ prober.Programmed)
      (fun _ _ => True) := by
  have read (device : Ledger δ) (stage : Stage) (there : stage = stageOf prober.device.device)
      (kept : stageOf device.device = stageOf prober.device.device) (told : device.told = prober.device.told) :
      Rising stageOf prober stage { prober with device } := by
    have calm : Calm (stageOf ∘ Ledger.device) prober { prober with device } := .of_device kept
    refine ⟨kept.trans there.symm, orderly.of_calm calm, calm.sinksKeep sinks, calm.setup ▸ sound, ?_, ?_⟩
    · rintro rfl
      exact there.symm
    · rw [Programmed.congr calm.setup told]
      subst there
      by_cases low : stageOf prober.device.device = .idle <;> simp [low]
  have walk : ((staged driver.ledger).walk .streaming).Yields prober
      (fun _ => Rising stageOf prober .active) (fun _ _ => True) := by
    refine Staged.yields_walk (Rising stageOf prober) ?_ fun next _ rising => rising.move honest next
    have told : driver.ledger.stage.Yields prober.device (fun _ device => device.told = prober.device.told)
        (fun _ device => device.told = prober.device.told) :=
      Ledger.keeps_unnoted (fun _ _ => rfl) driver.stage prober.device
    refine yields_onDevice.mpr (((honest.ledger.stage prober.device).and told).mono (fun stage device both => ?_)
      fun _ _ _ => trivial)
    exact read device stage both.1.1 both.1.2 both.2
  refine Staged.yields_setActive (walk.mono (fun _ after risen => ?_) fun _ _ _ => trivial)
    fun _ _ _ => yields_of_forall (fun _ _ => trivial) fun _ _ => trivial
  simpa using risen.told

/-! ## Runs -/

/-- Between two calls the driver is idle, or active on channels that were told what to serve. -/
structure Attuned (stageOf : δ → Stage) (prober : Prober (Ledger δ)) : Prop where
  orderly : Orderly (stageOf ∘ Ledger.device) prober
  sinks : SinksKeep Ledger.told prober
  sound : prober.setup.Sound
  told : stageOf prober.device.device = .idle ∨ stageOf prober.device.device = .active ∧ prober.Programmed

theorem Attuned.of_calm (attuned : Attuned stageOf before)
    (calm : Calm (fun ledger => (stageOf ledger.device, ledger.told)) before after) : Attuned stageOf after := by
  obtain ⟨stage, told⟩ := Prod.mk.inj calm.device
  refine ⟨attuned.orderly.of_calm (calm.comp Prod.fst), calm.sinksKeep attuned.sinks,
    calm.setup ▸ attuned.sound, ?_⟩
  rw [stage, Programmed.congr calm.setup told]
  exact attuned.told

/-- As long as the driver recovers, every call leaves it idle or the channels told. -/
theorem attuned_afterCall (honest : driver.Honest stageOf) (attuned : Attuned stageOf prober)
    (call : ProberCall) (recovering : Recovering driver.ledger (stageOf ∘ Ledger.device) prober call) :
    Attuned stageOf (afterCall driver.ledger prober call) := by
  have keeps : Keeps (fun ledger : Ledger δ => (stageOf ledger.device, ledger.told)) driver.ledger.stage :=
    honest.ledger.keeps_stage.prod (Ledger.keeps_unnoted (fun _ _ => rfl) driver.stage)
  by_cases traffic : call.IsTraffic
  · refine attuned.of_calm (calm_afterCall keeps (fun injector member bytes => ?_) traffic)
    exact (attuned.orderly.sinks injector member bytes).prod (attuned.sinks injector member bytes)
  · suffices preserved : (call.act driver.ledger).Yields prober (fun _ => Attuned stageOf)
        (fun _ => Attuned stageOf) from preserved.run
    cases call with
    | configure probes sampleSizes =>
      have stage := ((honest.ledger.stage prober.device).and (keeps prober.device)).mono
        (fun _ _ both => And.intro both.1.1 both.2) fun _ _ both => both.2
      have kept (after : Prober (Ledger δ)) (taken : Taken (fun ledger => (stageOf ledger.device, ledger.told))
          (· = stageOf prober.device.device) probes sampleSizes prober after) : Attuned stageOf after := by
        have orderly : Orderly (stageOf ∘ Ledger.device) after := attuned.orderly.of_taken (taken.comp Prod.fst)
        cases taken with
        | refused device same shape => exact shape ▸ attuned.of_calm (.of_device same)
        | taken device same stage isStage inactive fits shape =>
          have idle := attuned.told.resolve_right fun active => inactive (isStage.trans active.1)
          subst shape
          have setup : ({ reconfigured probes sampleSizes prober with device } : Prober (Ledger δ)).setup =
              (reconfigured probes sampleSizes prober).setup := setup_of_fitted rfl
          refine ⟨orderly, attuned.sinks, setup ▸ sound_reconfigured fits, .inl ?_⟩
          exact (Prod.mk.inj same).1.trans idle
      -- A session is not taken over while the driver is owned, so no channel is told anything.
      have unowned : .owned = stageOf prober.device.device → False := by
        intro owned
        rcases attuned.told with idle | ⟨active, -⟩
        · cases owned.trans idle
        · cases owned.trans active
      exact (yields_configure_taken probes sampleSizes stage fun owned => (unowned owned).elim).mono
        (fun _ => kept) fun _ => kept
    | setActive active =>
      change (setActive driver.ledger active).Yields prober _ _
      have injects : driver.ledger.InjectionKeeps Ledger.told := ProbeDevice.injectionKeeps_ledger fun _ _ => rfl
      have reached := (yields_setActive_orderly honest.ledger attuned.orderly active).and
        ((yields_setActive_sinks injects attuned.sinks active).and (keeps_setup_setActive active prober))
      cases ran : setActive driver.ledger active prober with
      | error cause after =>
        simp only [Yields, ran]
        obtain ⟨orderly, sinks, setup⟩ := reached.of_error ran
        exact ⟨orderly, sinks, setup ▸ attuned.sound, .inl (recovering.of_error ran)⟩
      | ok value after =>
        simp only [Yields, ran]
        obtain ⟨⟨arrived, orderly⟩, sinks, setup⟩ := reached.of_ok ran
        refine ⟨orderly, sinks, setup ▸ attuned.sound, ?_⟩
        cases active with
        | false => exact .inl arrived
        | true =>
          have told := (yields_start_programmed honest attuned.orderly attuned.sound attuned.sinks).of_ok ran
          exact .inr ⟨arrived, told.mpr (attuned.told.imp_right And.right)⟩
    | isActive | dequeue | enqueue | reading | grant => exact absurd trivial traffic

/-- Whatever was done before, after a start that succeeds the channels have been told what to serve if and
only if it began at idle or they had been before. One of the two is so as long as the driver was idle in the
beginning and every failure left it idle. -/
theorem programmed_of_started (honest : driver.Honest stageOf) (device : δ) (queueBytes : Nat)
    (calls : List ProberCall) :
    let fresh := create driver.ledger (Ledger.start device) queueBytes
    let prober := afterAll driver.ledger fresh calls
    (setActive driver.ledger true).Yields prober
      (fun _ after => after.Programmed ↔ stageOf prober.device.device = .idle ∨ prober.Programmed)
      (fun _ _ => True) ∧
    (stageOf device = .idle → Recovers driver.ledger (stageOf ∘ Ledger.device) fresh calls →
      stageOf prober.device.device = .idle ∨ prober.Programmed) := by
  intro fresh prober
  have injects : driver.ledger.InjectionKeeps Ledger.told := ProbeDevice.injectionKeeps_ledger fun _ _ => rfl
  refine ⟨?_, fun idle recovers => ?_⟩
  · have orderly := orderly_afterAll honest.ledger (Ledger.start device) queueBytes calls
    have sinks := sinksKeep_afterAll injects (Ledger.start device) queueBytes calls
    exact yields_start_programmed honest orderly (sound_afterAll _ queueBytes calls) sinks
  · have begins : Attuned stageOf fresh :=
      ⟨(halted_create _ queueBytes).orderly, nofun, sound_create _ queueBytes, .inl idle⟩
    have attuned := afterAll_induction_of_recovers (fun _ call attuned => attuned_afterCall honest attuned call)
      calls fresh recovers begins
    exact attuned.told.imp_right And.right

/-- A session that replaces another one is what the channels are told. -/
theorem sample_programmed :
    ScriptedProbeDevice.driver.Honest ScriptedProbeDevice.stageOf ∧
    (setActive ScriptedProbeDevice.driver.ledger true).Yields
      (afterAll ScriptedProbeDevice.driver.ledger
        (create ScriptedProbeDevice.driver.ledger (Ledger.start sampleDevice) 64)
        [.configure sampleProbes (.ofList [(1, 2)]), .setActive true, .setActive false,
          .configure sampleProbes.reverse (.ofList [(0, 2)])])
      (fun _ after => after.Programmed) (fun _ _ => False) := by
  have honest := ScriptedProbeDevice.scripted_honest
  obtain ⟨told, begun⟩ := programmed_of_started honest sampleDevice 64
    [.configure sampleProbes (.ofList [(1, 2)]), .setActive true, .setActive false,
      .configure sampleProbes.reverse (.ofList [(0, 2)])]
  have ready := begun (by decide) (by decide +kernel)
  have succeeds : (setActive ScriptedProbeDevice.driver.ledger true).Yields
      (afterAll ScriptedProbeDevice.driver.ledger
        (create ScriptedProbeDevice.driver.ledger (Ledger.start sampleDevice) 64)
        [.configure sampleProbes (.ofList [(1, 2)]), .setActive true, .setActive false,
          .configure sampleProbes.reverse (.ofList [(0, 2)])])
      (fun _ _ => True) (fun _ _ => False) := by
    decide +kernel
  exact ⟨honest, (told.and succeeds).mono (fun _ _ both => both.1.mpr ready) fun _ _ both => both.2⟩

/-- An idle driver with one extraction channel, which cannot be programmed; nor can the driver be taken back
to idle. -/
def sampleStuck : ScriptedProbeDevice :=
  { script :=
    { extractionChannels := 1, injectionChannels := 0, enterFailures := [(.idle, .driver "busy")]
      channelFailures := [((.extraction, 0), .driver "stuck")] } }

/-- The first start of an honest driver fails, the second succeeds, and the channel was never told. -/
theorem not_programmed_after_failed_start :
    ScriptedProbeDevice.driver.Honest ScriptedProbeDevice.stageOf ∧
    ScriptedProbeDevice.stageOf sampleStuck = .idle ∧
    (setActive ScriptedProbeDevice.driver.ledger true).Yields
      (afterAll ScriptedProbeDevice.driver.ledger
        (create ScriptedProbeDevice.driver.ledger (Ledger.start sampleStuck) 64)
        [.configure [⟨true, ⟨5⟩, .extract⟩] .empty, .setActive true])
      (fun _ after => ¬ after.Programmed) (fun _ _ => False) := by
  have silent : (setActive ScriptedProbeDevice.driver.ledger true).Yields
      (afterAll ScriptedProbeDevice.driver.ledger
        (create ScriptedProbeDevice.driver.ledger (Ledger.start sampleStuck) 64)
        [.configure [⟨true, ⟨5⟩, .extract⟩] .empty, .setActive true])
      (fun _ after => 0 < (after.queues .extraction).length ∧ after.device.told .extraction 0 = none)
      (fun _ _ => False) := by
    decide +kernel
  refine ⟨ScriptedProbeDevice.scripted_honest, rfl, silent.mono (fun _ after found => ?_) fun _ _ no => no⟩
  obtain ⟨there, untold⟩ := found
  intro programmed
  have told := programmed .extraction 0 there
  rw [untold] at told
  cases told

end Prober

end DspInspector

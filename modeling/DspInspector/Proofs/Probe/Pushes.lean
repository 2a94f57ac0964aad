import DspInspector.Proofs.Probe.Channels
import DspInspector.Proofs.Probe.Programming

/-!
# Every push of a session

A driver keeps a log of every write to its channels, accepted or refused. A session that is accepted fits the
channels, and its active slots have the lowest channels in their order (`Compacted`). Whatever is done, the log grows
by whole pushes, in which every channel is written once and in order, and by pushes that break off at a write that is
refused (`session_pushed`).
-/

namespace DspInspector

open DspInspector.Action

variable {δ ω ε α : Type}

/-- A channel was to be programmed with a probe. -/
structure ChannelWrite where
  flow : Flow
  channel : Nat
  probe : Probe
  accepted : Bool
  deriving DecidableEq

/-- The state of a driver and all writes to its channels so far. -/
structure WriteLog (δ : Type) where
  device : δ
  writes : List ChannelWrite

namespace WriteLog

/-- An action of the driver that writes no channel. -/
def unnoted (action : Action ε δ α) : Action ε (WriteLog δ) α :=
  Action.onPart WriteLog.device (fun device log => { log with device }) action

/-- Programs a channel and notes whether the driver accepted it. -/
def program (driver : ProbeDevice δ) (flow : Flow) (channel : Nat) (probe : Probe) :
    Action ProbeError (WriteLog δ) Unit := do
  let outcome ← (unnoted (driver.program flow channel probe)).attempt
  modify fun log => { log with writes := log.writes ++ [⟨flow, channel, probe, outcome.isOk⟩] }
  Action.ofExcept outcome

theorem keeps_unnoted (action : Action ε δ α) : Keeps writes (unnoted action) := fun _ =>
  yields_onPart.mpr (yields_of_forall (fun _ _ => rfl) fun _ _ => rfl)

theorem yields_program {driver : ProbeDevice δ} {flow : Flow} {channel : Nat} {probe : Probe} {log : WriteLog δ} :
    (program driver flow channel probe).Yields log
      (fun _ after => after.writes = log.writes ++ [⟨flow, channel, probe, true⟩])
      (fun _ after => after.writes = log.writes ++ [⟨flow, channel, probe, false⟩]) := by
  unfold program
  rw [yields_bind, yields_attempt]
  refine (keeps_unnoted (driver.program flow channel probe) log).mono (fun value after same => ?_)
    fun cause after same => ?_
  · exact congrArg (· ++ _) same
  · exact congrArg (· ++ _) same

end WriteLog

/-- The driver with a log. -/
def ProbeDevice.logged (driver : ProbeDevice δ) : ProbeDevice (WriteLog δ) where
  channels flow log := driver.channels flow log.device
  stage := WriteLog.unnoted driver.stage
  move source target := WriteLog.unnoted (driver.move source target)
  program := WriteLog.program driver
  openExtraction := WriteLog.unnoted driver.openExtraction
  openInjection channel := do
    let sink ← WriteLog.unnoted (driver.openInjection channel)
    pure ⟨sink.size, fun bytes => WriteLog.unnoted (sink.write bytes)⟩

theorem ProbeDevice.injectionKeeps_logged (driver : ProbeDevice δ) : driver.logged.InjectionKeeps WriteLog.writes := by
  intro channel log
  have opened := WriteLog.keeps_unnoted (driver.openInjection channel) log
  refine yields_bind.mpr (opened.mono (fun sink after kept => ?_) fun _ _ kept => kept)
  exact ⟨kept, fun bytes => WriteLog.keeps_unnoted (sink.write bytes)⟩

namespace Prober

variable {driver : ProbeDevice δ} {prober : Prober (WriteLog δ)} {push more writes : List ChannelWrite}

/-! ## Compact channels -/

/-- The slots of the enabled probes of a flow are mapped to the lowest channels, each to the one of its place among
them; so the channel serves the probe of the slot, and the channels that are left serve a disabled one. -/
structure Compacted (flow : Flow) (probes : List Probe) (map : ChannelMap) : Prop where
  slots : ∀ slot, (∃ channel, map.find? slot = some channel) ↔
    ∃ probe, probes[slot]? = some probe ∧ flow.wants probe = true
  channels : ∀ channel, (∃ slot, map.find? slot = some channel) ↔ channel < probes.countP flow.wants
  ascending : ∀ {slot other channel channel' : Nat}, map.find? slot = some channel → map.find? other = some channel' →
    (slot < other ↔ channel < channel')
  served : ∀ {slot channel : Nat}, map.find? slot = some channel → probes[slot]? = some (assigned probes flow channel)
  spare : ∀ {channel : Nat}, probes.countP flow.wants ≤ channel → assigned probes flow channel = Probe.disabled

theorem compacted (flow : Flow) (probes : List Probe) :
    Compacted flow probes (compact (ActiveSlots.slotsWhere flow.wants probes)) where
  slots slot := by
    simp only [find?_compact ActiveSlots.pairwise_slotsWhere, ← ActiveSlots.mem_slotsWhere, List.mem_iff_getElem?]
  channels channel := by
    rw [← ActiveSlots.length_slotsWhere]
    simp only [find?_compact ActiveSlots.pairwise_slotsWhere]
    exact ⟨fun ⟨slot, found⟩ => (List.getElem?_eq_some_iff.mp found).1,
      fun inside => ⟨_, List.getElem?_eq_getElem inside⟩⟩
  ascending := by
    intro slot other channel channel' found found'
    rw [find?_compact ActiveSlots.pairwise_slotsWhere] at found found'
    obtain ⟨inside, rfl⟩ := List.getElem?_eq_some_iff.mp found
    obtain ⟨inside', rfl⟩ := List.getElem?_eq_some_iff.mp found'
    have ordered := List.pairwise_iff_getElem.mp (@ActiveSlots.pairwise_slotsWhere flow.wants probes)
    rcases Nat.lt_trichotomy channel channel' with below | rfl | above
    · exact iff_of_true (ordered channel channel' inside inside' below) below
    · simp
    · have reverse := ordered channel' channel inside' inside above
      omega
  served := by
    intro slot channel found
    rw [find?_compact ActiveSlots.pairwise_slotsWhere] at found
    have same := congrArg (·[channel]?) (@ActiveSlots.map_slotsWhere flow.wants probes)
    simp only [List.getElem?_map, found, Option.map_some] at same
    cases there : (probes.filter flow.wants)[channel]? with
    | none => simp [there] at same
    | some probe => simpa [there, assigned, List.getD_eq_getElem?_getD] using same
  spare := by
    intro channel beyond
    rw [List.countP_eq_length_filter] at beyond
    simp [assigned, List.getD_eq_getElem?_getD, beyond]

/-! ## One push -/

/-- Every channel of a flow is told, in order, which probe it is to serve. -/
def flowPush (probes : List Probe) (flow : Flow) (count : Nat) : List ChannelWrite :=
  (List.range count).map fun channel => ⟨flow, channel, assigned probes flow channel, true⟩

/-- First the extraction channels, then the injection channels. -/
def sessionPush (probes : List Probe) (channels : Flow → Nat) : List ChannelWrite :=
  flowPush probes .extraction (channels .extraction) ++ flowPush probes .injection (channels .injection)

/-- The writes of a push up to one that was refused. -/
def CutShort (push writes : List ChannelWrite) : Prop :=
  ∃ before write rest, push = before ++ write :: rest ∧ writes = before ++ [{ write with accepted := false }]

theorem CutShort.append_right (cut : CutShort push writes) : CutShort (push ++ more) writes := by
  obtain ⟨before, write, rest, rfl, rfl⟩ := cut
  exact ⟨before, write, rest ++ more, by simp, rfl⟩

theorem CutShort.append_left (cut : CutShort more writes) : CutShort (push ++ more) (push ++ writes) := by
  obtain ⟨before, write, rest, rfl, rfl⟩ := cut
  exact ⟨push ++ before, write, rest, by simp, by simp⟩

/-- The action pushes, or is cut short and fails. -/
def Pushes (push : List ChannelWrite) (action : Action ProbeError (Prober (WriteLog δ)) Unit)
    (before : Prober (WriteLog δ)) : Prop :=
  action.Yields before (fun _ after => after.device.writes = before.device.writes ++ push) fun _ after =>
    ∃ writes, CutShort push writes ∧ after.device.writes = before.device.writes ++ writes

theorem Pushes.bind {action : Action ProbeError (Prober (WriteLog δ)) Unit}
    {next : Unit → Action ProbeError (Prober (WriteLog δ)) Unit} (first : Pushes push action prober)
    (second : action.Yields prober (fun value between => Pushes more (next value) between) fun _ _ => True) :
    Pushes (push ++ more) (action >>= next) prober := by
  refine yields_bind.mpr ((first.and second).mono (fun value between both => ?_) fun cause after failed => ?_)
  · obtain ⟨told, onward⟩ := both
    refine onward.mono (fun _ after rest => ?_) fun _ after failed => ?_
    · rw [rest, told, List.append_assoc]
    · obtain ⟨writes, cut, rest⟩ := failed
      exact ⟨push ++ writes, cut.append_left, by rw [rest, told, List.append_assoc]⟩
  · obtain ⟨⟨writes, cut, rest⟩, -⟩ := failed
    exact ⟨writes, cut.append_right, rest⟩

theorem pushes_programFrom (flow : Flow) (probes : List Probe) : ∀ (channel : Nat) (prober : Prober (WriteLog δ)),
    Pushes ((probes.zipIdx channel).map fun entry => ⟨flow, entry.2, entry.1, true⟩)
      (programFrom driver.logged flow channel probes) prober := by
  induction probes with
  | nil => exact fun _ _ => (List.append_nil _).symm
  | cons probe probes ih =>
    intro channel prober
    have one : Pushes [⟨flow, channel, probe, true⟩]
        (mapError (fun cause => .driver (s!"Failed to write {flow.text} probe control settings: " ++ cause.message))
          (onDevice (driver.logged.program flow channel probe))) prober := by
      refine yields_mapError.mpr (yields_onDevice.mpr (WriteLog.yields_program.mono (fun _ _ told => told) ?_))
      exact fun cause log refused => ⟨_, ⟨[], _, [], rfl, rfl⟩, refused⟩
    exact one.bind (yields_of_forall (fun _ between => ih (channel + 1) between) fun _ _ => trivial)

theorem zipIdx_channelProbes {setup : Setup} (sound : setup.Sound) (flow : Flow) :
    ((channelProbes setup.probes (setup.channelMap flow) (setup.channels flow)).zipIdx.map fun entry =>
      (⟨flow, entry.2, entry.1, true⟩ : ChannelWrite)) = flowPush setup.probes flow (setup.channels flow) := by
  refine List.ext_getElem? fun channel => ?_
  by_cases inside : channel < setup.channels flow
  · simp [flowPush, channelProbes_eq sound inside, inside]
  · have beyond : setup.channels flow ≤ channel := Nat.le_of_not_lt inside
    simp [flowPush, length_channelProbes, beyond]

theorem pushes_program {setup : Setup} (sound : setup.Sound) (same : prober.setup = setup) (flow : Flow) :
    Pushes (flowPush setup.probes flow (setup.channels flow)) (program driver.logged flow) prober := by
  rw [← zipIdx_channelProbes sound flow]
  subst same
  exact yields_bind.mpr (pushes_programFrom flow _ 0 prober)

/-- Programming every channel is one push of the session. -/
theorem pushes_programAll {setup : Setup} (sound : setup.Sound) (same : prober.setup = setup) :
    Pushes (sessionPush setup.probes setup.channels) (programAll driver.logged) prober := by
  refine (pushes_program sound same .extraction).bind ?_
  refine (keeps_fitted_program .extraction prober).mono (fun _ between fitted => ?_) fun _ _ _ => trivial
  exact pushes_program sound ((setup_of_fitted fitted).trans same) .injection

example :
    sessionPush [Probe.disabled, ⟨true, ⟨5⟩, .inject⟩, ⟨true, ⟨6⟩, .injectReextract⟩, Probe.disabled] (fun _ => 2) =
      [⟨.extraction, 0, ⟨true, ⟨6⟩, .injectReextract⟩, true⟩, ⟨.extraction, 1, Probe.disabled, true⟩,
        ⟨.injection, 0, ⟨true, ⟨5⟩, .inject⟩, true⟩, ⟨.injection, 1, ⟨true, ⟨6⟩, .injectReextract⟩, true⟩] := by
  decide

/-! ## Steps -/

/-- Every step but the first writes no channel. -/
theorem yields_move_unwritten (sinks : SinksKeep WriteLog.writes prober) {source target : Stage}
    (other : ¬ (source = .idle ∧ target = .owned)) :
    (move driver.logged source target).Yields prober
      (fun _ after => after.device.writes = prober.device.writes)
      (fun _ after => after.device.writes = prober.device.writes) :=
  yields_move_unprogrammed (fun source target => WriteLog.keeps_unnoted (driver.move source target))
    (WriteLog.keeps_unnoted driver.openExtraction) driver.injectionKeeps_logged sinks other

/-- Some part of a push, or none. -/
def Pushed (push writes : List ChannelWrite) : Prop := writes = [] ∨ writes = push ∨ CutShort push writes

/-- The first step pushes the session once the driver has moved. -/
theorem yields_move_push {setup : Setup} (sound : setup.Sound) (same : prober.setup = setup) :
    (move driver.logged .idle .owned).Yields prober
      (fun _ after => after.device.writes = prober.device.writes ++ sessionPush setup.probes setup.channels)
      (fun _ after => ∃ writes, Pushed (sessionPush setup.probes setup.channels) writes ∧
        after.device.writes = prober.device.writes ++ writes) := by
  rw [yields_move_other (by decide)]
  have moved := WriteLog.keeps_unnoted (driver.move .idle .owned) prober.device
  refine moved.mono (fun _ log kept => ?_) fun _ log kept => ?_
  · rw [if_pos ⟨rfl, rfl⟩]
    have stopped : ({ prober.stopWorkers with device := log } : Prober (WriteLog δ)).setup = setup :=
      ((setup_of_fitted rfl).trans (setup_stopWorkers prober)).trans same
    refine (pushes_programAll sound stopped).mono (fun _ after told => ?_) fun _ after failed => ?_
    · rw [told, kept]
    · obtain ⟨writes, cut, rest⟩ := failed
      exact ⟨writes, .inr (.inr cut), by rw [rest, kept]⟩
  · exact ⟨[], .inl rfl, by rw [List.append_nil]; exact kept⟩

/-- What a prober on its way keeps of what it needs to push its session. -/
structure Steady (setup : Setup) (state : Prober (WriteLog δ)) : Prop where
  setup : state.setup = setup
  sinks : SinksKeep WriteLog.writes state

theorem Steady.move {setup : Setup} (steady : Steady setup prober) (source target : Stage) :
    (move driver.logged source target).Yields prober (fun _ => Steady setup) (fun _ => Steady setup) := by
  have kept := (keeps_setup_move source target prober).and
    (yields_move_sinks driver.injectionKeeps_logged steady.sinks source target)
  refine kept.mono (fun _ after both => ?_) fun _ after both => ?_
  · exact ⟨both.1.trans steady.setup, both.2⟩
  · exact ⟨both.1.trans steady.setup, both.2⟩

theorem Steady.read {setup : Setup} (steady : Steady setup prober) :
    (onDevice driver.logged.stage).Yields prober
      (fun stage after => (∃ device, driver.stage prober.device.device = .ok stage device) ∧
        Steady setup after ∧ after.device.writes = prober.device.writes)
      (fun _ after => Steady setup after ∧ after.device.writes = prober.device.writes) := by
  have steady_with (log : WriteLog δ) : Steady setup { prober with device := log } :=
    ⟨(setup_of_fitted rfl).trans steady.setup, steady.sinks⟩
  refine yields_onDevice.mpr (yields_onPart.mpr ?_)
  cases ran : driver.stage prober.device.device with
  | ok stage device =>
    simp only [Yields, ran]
    exact ⟨⟨device, rfl⟩, steady_with _, trivial⟩
  | error cause device =>
    simp only [Yields, ran]
    exact ⟨steady_with _, trivial⟩

/-- A walk to rest on its way: the stage was read where it began, and no channel was written since. -/
structure Lowered (driver : ProbeDevice δ) (setup : Setup) (begun state : Prober (WriteLog δ)) : Prop where
  steady : Steady setup state
  read : ∃ stage device, driver.stage begun.device.device = .ok stage device
  unwritten : state.device.writes = begun.device.writes

theorem Steady.rest {setup : Setup} (steady : Steady setup prober) :
    ((staged driver.logged).walk .rest).Yields prober (fun _ => Lowered driver setup prober)
      (fun _ after => after.device.writes = prober.device.writes) := by
  refine Staged.yields_walk (fun _ => Lowered driver setup prober) ?_ ?_
  · refine steady.read.mono (fun stage after read => ?_) fun _ _ read => read.2
    obtain ⟨⟨device, told⟩, still, same⟩ := read
    exact ⟨still, ⟨stage, device, told⟩, same⟩
  · intro source target next state lowered
    have other : ¬ (source = .idle ∧ target = .owned) := by
      rintro ⟨rfl, rfl⟩
      cases next
    obtain ⟨still, told, same⟩ := lowered
    refine ((yields_move_unwritten still.sinks other).and (still.move source target)).mono
      (fun _ after both => ?_) fun _ after both => ?_
    · exact ⟨both.2, told, both.1.trans same⟩
    · exact both.1.trans same

/-- A walk to streaming that has come to a stage: the session was pushed if the walk began at idle and has left
it. -/
structure Raised (driver : ProbeDevice δ) (setup : Setup) (begun : Prober (WriteLog δ)) (stage : Stage)
    (state : Prober (WriteLog δ)) : Prop where
  steady : Steady setup state
  written : ∃ first device, driver.stage begun.device.device = .ok first device ∧
    (stage = .idle → first = .idle) ∧
    state.device.writes = begun.device.writes ++
      if first = .idle ∧ stage ≠ .idle then sessionPush setup.probes setup.channels else []

theorem Raised.move {setup : Setup} {begun : Prober (WriteLog δ)} {source target : Stage} (sound : setup.Sound)
    (raised : Raised driver setup begun source prober) (next : source.next .streaming = some target) :
    (move driver.logged source target).Yields prober (fun _ => Raised driver setup begun target)
      (fun _ after => Steady setup after ∧ ∃ writes, Pushed (sessionPush setup.probes setup.channels) writes ∧
        after.device.writes = begun.device.writes ++ writes) := by
  obtain ⟨steady, first, device, told, lowest, written⟩ := raised
  have above : target ≠ .idle := by
    rintro rfl
    cases source <;> cases next
  -- The walk leaves idle in its first step if at all, so it has not pushed before.
  by_cases low : source = .idle
  · subst low
    cases next
    have fresh : prober.device.writes = begun.device.writes := by simpa using written
    refine ((yields_move_push sound steady.setup).and (steady.move .idle .owned)).mono (fun _ after both => ?_)
      fun _ after both => ?_
    · refine ⟨both.2, first, device, told, fun same => absurd same above, ?_⟩
      rw [both.1, fresh, if_pos ⟨lowest rfl, above⟩]
    · obtain ⟨⟨writes, pushed, rest⟩, still⟩ := both
      exact ⟨still, writes, pushed, by rw [rest, fresh]⟩
  · have other : ¬ (source = .idle ∧ target = .owned) := fun both => low both.1
    refine ((yields_move_unwritten steady.sinks other).and (steady.move source target)).mono (fun _ after both => ?_)
      fun _ after both => ?_
    · refine ⟨both.2, first, device, told, fun same => absurd same above, ?_⟩
      rw [both.1, written]
      simp [low, above]
    · refine ⟨both.2, _, ?_, both.1.trans written⟩
      split
      · exact .inr (.inl rfl)
      · exact .inl rfl

/-- A start pushes the session if it finds the driver idle, and a stop pushes nothing. -/
theorem yields_setActive_push {setup : Setup} (sound : setup.Sound) (steady : Steady setup prober) (active : Bool) :
    (setActive driver.logged active).Yields prober
      (fun _ after => ∃ stage device, driver.stage prober.device.device = .ok stage device ∧
        after.device.writes = prober.device.writes ++
          if active = true ∧ stage = .idle then sessionPush setup.probes setup.channels else [])
      (fun _ after => ∃ writes, Pushed (sessionPush setup.probes setup.channels) writes ∧
        after.device.writes = prober.device.writes ++ writes) := by
  cases active with
  | false =>
    have rest : ((staged driver.logged).walk .rest).Yields prober _ _ := steady.rest
    refine rest.mono (fun _ after reached => ?_) fun _ after same => ?_
    · obtain ⟨-, ⟨stage, device, told⟩, same⟩ := reached
      exact ⟨stage, device, told, by simpa using same⟩
    · exact ⟨[], .inl rfl, by simpa using same⟩
  | true =>
    have walk : ((staged driver.logged).walk .streaming).Yields prober (fun _ => Raised driver setup prober .active)
        (fun _ after => Steady setup after ∧ ∃ writes, Pushed (sessionPush setup.probes setup.channels) writes ∧
          after.device.writes = prober.device.writes ++ writes) := by
      refine Staged.yields_walk (Raised driver setup prober) ?_ fun next state raised => raised.move sound next
      refine steady.read.mono (fun stage after read => ?_) fun _ after read => ?_
      · obtain ⟨⟨device, told⟩, still, same⟩ := read
        exact ⟨still, stage, device, told, id, by simp [same]⟩
      · exact ⟨read.1, [], .inl rfl, by simpa using read.2⟩
    refine Staged.yields_setActive (walk.mono (fun _ after raised => ?_) fun _ _ failed => failed)
      fun _ after failed => ?_
    · obtain ⟨-, stage, device, told, -, written⟩ := raised
      exact ⟨stage, device, told, by simpa using written⟩
    · obtain ⟨still, writes, pushed, written⟩ := failed
      refine still.rest.mono (fun _ _ reached => ?_) fun _ _ same => ?_
      · exact ⟨writes, pushed, reached.unwritten.trans written⟩
      · exact ⟨writes, pushed, same.trans written⟩

/-! ## Sessions -/

theorem length_of_checkSession {probes : List Probe} {active : ActiveSlots}
    (fits : prober.checkSession probes = .ok active) : probes.length = prober.slots := by
  by_contra other
  simp [checkSession, other] at fits

/-- A session that is accepted fits the channels and is pushed at once if the driver is owned. -/
theorem yields_configure_push {setup : Setup} (same : prober.setup = setup) (probes : List Probe)
    (sampleSizes : SampleSizes) :
    (configure driver.logged probes sampleSizes).Yields prober
      (fun _ after => probes.length = setup.channels .extraction + setup.channels .injection ∧
        (∀ flow, probes.countP (Flow.wants flow) ≤ setup.channels flow) ∧
        (∃ stage device, driver.stage prober.device.device = .ok stage device ∧ stage ≠ .active ∧
          after.device.writes = prober.device.writes ++
            if stage = .owned then sessionPush probes setup.channels else []) ∧
        after.setup = (reconfigured probes sampleSizes prober).setup)
      (fun _ after => ∃ writes, (writes = [] ∨ CutShort (sessionPush probes setup.channels) writes) ∧
        after.device.writes = prober.device.writes ++ writes) := by
  subst same
  rw [yields_configure]
  cases checked : prober.checkSession probes with
  | error cause => exact ⟨[], .inl rfl, (List.append_nil _).symm⟩
  | ok active =>
    obtain ⟨-, fits⟩ := checkSession_eq_ok checked
    have count := length_of_checkSession checked
    refine yields_onPart.mpr ?_
    cases read : driver.stage prober.device.device with
    | error cause device =>
      simp only [Yields, read]
      exact ⟨[], .inl rfl, (List.append_nil _).symm⟩
    | ok stage device =>
      rw [yields_of_ok read]
      cases stage with
      | active => exact ⟨[], .inl rfl, (List.append_nil _).symm⟩
      | idle => exact ⟨count, fits, ⟨_, device, rfl, by decide, (List.append_nil _).symm⟩, setup_of_fitted rfl⟩
      | allocated => exact ⟨count, fits, ⟨_, device, rfl, by decide, (List.append_nil _).symm⟩, setup_of_fitted rfl⟩
      | owned =>
        let log : WriteLog δ := { prober.device with device }
        let taken : Prober (WriteLog δ) := { reconfigured probes sampleSizes prober with device := log }
        have setup : taken.setup = (reconfigured probes sampleSizes prober).setup := setup_of_fitted rfl
        have told : Pushes _ (programAll driver.logged) taken := pushes_programAll (sound_reconfigured fits) setup
        refine (told.and (keeps_fitted_programAll taken)).mono (fun _ after both => ?_) fun _ after failed => ?_
        · refine ⟨count, fits, ⟨_, device, rfl, by decide, both.1⟩, (setup_of_fitted both.2).trans setup⟩
        · obtain ⟨⟨writes, cut, rest⟩, -⟩ := failed
          exact ⟨writes, .inr cut, rest⟩

/-- After any run: each active slot of the session that is configured has the channel of its place. A configuration
succeeds only if it has as many probes as there are channels, not too many of them active, and if the stage
was read and is not active; it is pushed if the driver is owned. A start that succeeds pushes the session if it
finds the driver idle, a stop pushes nothing, and where they fail at most one push was made or cut short. Nothing else
writes a channel. -/
theorem session_pushed (driver : ProbeDevice δ) (device : δ) (queueBytes : Nat) (calls : List ProberCall) :
    let channels flow := driver.channels flow device
    let prober := afterAll driver.logged (create driver.logged ⟨device, []⟩ queueBytes) calls
    (∀ flow, Compacted flow prober.probes (prober.channelMap flow)) ∧
    (∀ probes sampleSizes, (configure driver.logged probes sampleSizes).Yields prober
      (fun _ after => probes.length = channels .extraction + channels .injection ∧
        (∀ flow, probes.countP (Flow.wants flow) ≤ channels flow) ∧
        (∃ stage device, driver.stage prober.device.device = .ok stage device ∧ stage ≠ .active ∧
          after.device.writes = prober.device.writes ++ if stage = .owned then sessionPush probes channels else []) ∧
        after.probes = probes ∧ ∀ flow, Compacted flow probes (after.channelMap flow))
      (fun _ after => ∃ writes, (writes = [] ∨ CutShort (sessionPush probes channels) writes) ∧
        after.device.writes = prober.device.writes ++ writes)) ∧
    (∀ active, (setActive driver.logged active).Yields prober
      (fun _ after => ∃ stage device, driver.stage prober.device.device = .ok stage device ∧
        after.device.writes = prober.device.writes ++
          if active = true ∧ stage = .idle then sessionPush prober.probes channels else [])
      (fun _ after => ∃ writes, Pushed (sessionPush prober.probes channels) writes ∧
        after.device.writes = prober.device.writes ++ writes)) ∧
    ∀ call : ProberCall, call.IsTraffic →
      (afterCall driver.logged prober call).device.writes = prober.device.writes := by
  intro channels prober
  have sound : prober.setup.Sound := sound_afterAll _ queueBytes calls
  have sinks : SinksKeep WriteLog.writes prober := sinksKeep_afterAll driver.injectionKeeps_logged _ queueBytes calls
  have count : prober.setup.channels = channels :=
    funext (channels_afterAll (⟨device, []⟩ : WriteLog δ) queueBytes calls)
  have compact_of (probes : List Probe) (setup : Setup) (isProbes : setup.probes = probes) (sound : setup.Sound)
      (flow : Flow) : Compacted flow probes (setup.channelMap flow) := by
    rw [(sound flow).1, isProbes]
    exact compacted flow probes
  refine ⟨compact_of _ prober.setup rfl sound, fun probes sampleSizes => ?_, fun active => ?_, fun call traffic => ?_⟩
  · have configured : (configure driver.logged probes sampleSizes).Yields prober _ _ :=
      yields_configure_push rfl probes sampleSizes
    rw [count] at configured
    refine configured.mono (fun _ after taken => ?_) fun _ _ failed => failed
    obtain ⟨length, fits, pushed, setup⟩ := taken
    have isProbes : after.setup.probes = probes := congrArg Setup.probes setup
    refine ⟨length, fits, pushed, isProbes, compact_of probes after.setup isProbes ?_⟩
    rw [setup]
    refine sound_reconfigured fun flow => ?_
    rw [show (prober.queues flow).length = channels flow from congrFun count flow]
    exact fits flow
  · have pushed : (setActive driver.logged active).Yields prober _ _ := yields_setActive_push sound ⟨rfl, sinks⟩ active
    rw [count] at pushed
    exact pushed
  · exact (calm_afterCall (WriteLog.keeps_unnoted driver.stage) sinks traffic).device

end Prober

end DspInspector

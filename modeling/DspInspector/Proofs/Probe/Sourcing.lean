import DspInspector.Proofs.Probe.Ledger
import DspInspector.Proofs.Probe.Scripted

/-!
# Where the blocks of a client come from

The extraction queues are emptied when the extraction stream is opened, and only then. So every block that
a client takes is a packet of a probe that was configured when the stream was opened last, the probe that
then had the channel (`packet_of_dequeued`). That is the probe the client asks for as long as the session is
still the same; a block that is left when another session is configured is handed out for a probe of the
new one (`stale_block`).
-/

namespace DspInspector

open DspInspector.Action

variable {δ : Type}

namespace Prober

variable {driver : ProbeDevice δ} {source : Setup}

/-- Which session the extraction queues are filled by, after a call: a session that opened the extraction
stream, or else the one before. -/
def sourceAfter (driver : ProbeDevice δ) (source : Setup) (prober : Prober (Ledger δ)) (call : ProberCall) :
    Setup :=
  let after := afterCall driver.ledger prober call
  if after.device.streams = prober.device.streams then source else after.setup

/-- The session that opened the extraction stream last in the course of some calls. -/
def sourceOf (driver : ProbeDevice δ) : Setup → Prober (Ledger δ) → List ProberCall → Setup
  | source, _, [] => source
  | source, prober, call :: calls =>
    sourceOf driver (sourceAfter driver source prober call) (afterCall driver.ledger prober call) calls

/-- Every queued block is a packet of a probe of the session, on the channel of that probe, and the
extraction worker knows the probe points of the session only. -/
structure Sourced (source : Setup) (prober : Prober δ) : Prop where
  sound : source.Sound
  blocks : ∀ channel block, Queued prober.extractionQueues channel block → ∃ packet : Packet,
    block = packet.writeCompact ∧ Serves source.probes (source.channelMap .extraction) channel packet.point
  points : ∀ extractor, prober.extractor = some extractor → ∀ point channel,
    extractor.router.points.find? point = some channel →
      Serves source.probes (source.channelMap .extraction) channel point

variable {prober after : Prober δ}

/-- Blocks may be taken, and the worker may be gone. -/
theorem Sourced.of_less (sourced : Sourced source prober)
    (fewer : ∀ channel block, Queued after.extractionQueues channel block →
      Queued prober.extractionQueues channel block)
    (worker : ∀ extractor, after.extractor = some extractor → prober.extractor = some extractor) :
    Sourced source after where
  sound := sourced.sound
  blocks channel block queued := sourced.blocks channel block (fewer channel block queued)
  points extractor there := sourced.points extractor (worker extractor there)

/-! ## Traffic -/

/-- What the worker reads comes from the probes of its session. -/
theorem Sourced.receiveReading (sourced : Sourced source prober) (reading : Reading) :
    Sourced source (prober.receiveReading reading) := by
  unfold Prober.receiveReading
  cases there : prober.extractor with
  | none => exact sourced
  | some extractor =>
    obtain ⟨points, fills⟩ :=
      Extraction.fills_receive reading ⟨extractor, prober.extractionQueues, prober.events⟩
    refine ⟨sourced.sound, fun channel block queued => ?_, ?_⟩
    · rcases fills.blocks channel block queued with before | ⟨packet, isPacket, served⟩
      · exact sourced.blocks channel block before
      · exact ⟨packet, isPacket, sourced.points extractor there packet.point channel served⟩
    · rintro _ ⟨⟩ point channel served
      rw [points] at served
      exact sourced.points extractor there point channel served

theorem keeps_fitted_isActive {driver : ProbeDevice δ} : Keeps fitted (isActive driver) :=
  (keeps_fitted_onDevice driver.stage).mapError.bind fun stage => by
    cases stage with
    | idle => exact keeps_pure false
    | active => exact keeps_pure true
    | owned => exact keeps_throw (ProbeError.unexpectedStage .owned)
    | allocated => exact keeps_throw (ProbeError.unexpectedStage .allocated)

theorem receiveGrant_extraction (grant : Grant) (channel : Nat) (prober : Prober δ) :
    (prober.receiveGrant grant channel).extractionQueues = prober.extractionQueues ∧
      (prober.receiveGrant grant channel).extractor = prober.extractor := by
  unfold receiveGrant receiveGrantAt
  repeat' split
  all_goals exact ⟨rfl, rfl⟩

/-- Traffic brings nothing but packets of the session. -/
theorem Sourced.of_traffic {driver : ProbeDevice δ} (sourced : Sourced source prober) {call : ProberCall}
    (traffic : call.IsTraffic) : Sourced source (afterCall driver prober call) := by
  suffices preserved : (call.act driver).Yields prober (fun _ => Sourced source) (fun _ => Sourced source)
    from preserved.run
  cases call with
  | configure probes sampleSizes => exact traffic.elim
  | setActive active => exact traffic.elim
  | isActive =>
    have same (after : Prober δ) (same : after.fitted = prober.fitted) : Sourced source after := by
      rw [eq_of_fitted same]
      exact sourced.of_less (fun _ _ queued => queued) fun _ there => there
    exact yields_bind.mpr ((keeps_fitted_isActive prober).mono (fun _ => same) fun _ => same)
  | dequeue slot =>
    refine yields_bind.mpr (yields_dequeue.mpr ?_)
    cases found : prober.queueOf .extraction slot with
    | error cause => exact sourced
    | ok entry =>
      obtain ⟨-, isQueue⟩ := queueOf_eq_ok found
      refine sourced.of_less (fun channel block queued => ?_) fun _ there => there
      exact Queued.of_set isQueue (fun _ => BoundedQueue.mem_pop) queued
  | enqueue slot block =>
    refine yields_bind.mpr (yields_enqueue.mpr ?_)
    cases prober.queueOf .injection slot with
    | error cause => exact sourced
    | ok entry => exact sourced.of_less (fun _ _ queued => queued) fun _ there => there
  | reading input => exact sourced.receiveReading input
  | grant room channel =>
    obtain ⟨queues, extractor⟩ := receiveGrant_extraction room channel prober
    refine sourced.of_less (fun _ _ queued => ?_) fun _ there => ?_
    · rwa [queues] at queued
    · rwa [extractor] at there

/-! ## Steps -/

/-- On the way from one prober to another the extraction stream was not opened and the queues are filled by
the same session as before; or it was opened, and they are filled by the session of now. -/
def Follows (source : Setup) (before prober : Prober (Ledger δ)) : Prop :=
  prober.device.streams = before.device.streams ∧ Sourced source prober ∨
    before.device.streams < prober.device.streams ∧ Sourced prober.setup prober

variable {before between : Prober (Ledger δ)}

theorem Follows.of_less (follows : Follows source before between) {after : Prober (Ledger δ)}
    (streams : after.device.streams = between.device.streams) (setup : after.setup = between.setup)
    (fewer : ∀ channel block, Queued after.extractionQueues channel block →
      Queued between.extractionQueues channel block)
    (worker : ∀ extractor, after.extractor = some extractor → between.extractor = some extractor) :
    Follows source before after := by
  rcases follows with ⟨same, sourced⟩ | ⟨more, sourced⟩
  · exact .inl ⟨streams.trans same, sourced.of_less fewer worker⟩
  · refine .inr ⟨streams ▸ more, ?_⟩
    rw [setup]
    exact sourced.of_less fewer worker

theorem Follows.stopWorkers (follows : Follows source before between) :
    Follows source before between.stopWorkers := by
  refine follows.of_less rfl (setup_stopWorkers between) (fun channel block queued => ?_) nofun
  refine Queued.of_items ?_ queued
  simp [Prober.stopWorkers, BoundedQueue.closed]

theorem Follows.with_device (follows : Follows source before between) {device : Ledger δ}
    (streams : device.streams = between.device.streams) : Follows source before { between with device } :=
  follows.of_less streams (setup_of_fitted rfl) (fun _ _ queued => queued) fun _ there => there

/-- A start of the extraction worker empties the queues. -/
theorem Follows.prepared (follows : Follows source before between) (sound : between.setup.Sound)
    {after : Prober (Ledger δ)}
    (prepared : Prepared (fun ledger => ledger.streams = between.device.streams + 1) between after) :
    Follows source before after := by
  have setup := prepared.setup_eq
  rcases prepared with ⟨-, rfl⟩ | ⟨-, device, points, queues, rfl, opened, -, served⟩
  · exact follows
  · have reached : before.device.streams ≤ between.device.streams := by
      rcases follows with ⟨same, -⟩ | ⟨more, -⟩
      · exact Nat.le_of_eq same.symm
      · exact Nat.le_of_lt more
    refine .inr ⟨by change _ < device.streams; omega, ?_⟩
    rw [setup]
    refine ⟨sound, fun channel block queued => ?_, ?_⟩
    · obtain ⟨queue, found, member⟩ := queued
      rw [List.getElem?_map, Option.map_eq_some_iff] at found
      obtain ⟨full, -, rfl⟩ := found
      cases member
    · rintro _ ⟨⟩ point channel found
      exact served point channel found

theorem Follows.joined (follows : Follows source before between) {channels opened : List Nat}
    {after : Prober (Ledger δ)} (joined : Joined Ledger.streams channels opened between after) :
    Follows source before after := by
  have setup := joined.setup_eq
  obtain ⟨device, queues, injectors, rfl, streams, -⟩ := joined
  exact follows.of_less streams setup (fun _ _ queued => queued) fun _ there => there

theorem Follows.startStreaming (follows : Follows source before between) (sound : between.setup.Sound) :
    (startStreaming driver.ledger).Yields between (fun _ => Follows source before)
      (fun _ => Follows source before) := by
  have injects : driver.ledger.InjectionKeeps Ledger.streams := ProbeDevice.injectionKeeps_ledger fun _ _ => rfl
  have opens : driver.ledger.openExtraction.Yields between.device
      (fun _ ledger => ledger.streams = between.device.streams + 1)
      (fun _ ledger => ledger.streams = between.device.streams) :=
    yields_bind.mpr (yields_onPart.mpr (yields_of_forall (fun _ _ => rfl) fun _ _ => rfl))
  refine (yields_startStreaming injects opens).mono (fun _ after started => ?_) (fun _ after isStuck => ?_)
  · obtain ⟨launched, prepared, joined⟩ := started
    exact (follows.prepared sound prepared).joined joined
  · obtain ⟨stuck, isStuck, rfl⟩ := isStuck
    have setup := isStuck.setup_eq
    apply Follows.stopWorkers
    cases isStuck with
    | late launched channels further prepared joined => exact (follows.prepared sound prepared).joined joined
    | early device channels device_cases shape =>
      have streams : device.streams = between.device.streams := by
        rcases device_cases with rfl | kept
        · rfl
        · exact kept
      subst shape
      refine follows.of_less streams setup (fun channel block queued => ?_) fun _ there => there
      exact queued.of_items (items_openQueues channels between.extractionQueues)

/-- Every step follows, whether it succeeds or not. -/
theorem Follows.move (follows : Follows source before between) (sound : between.setup.Sound)
    (start target : Stage) :
    (move driver.ledger start target).Yields between (fun _ => Follows source before)
      (fun _ => Follows source before) := by
  have moves (ledger : Ledger δ) : (driver.ledger.move start target).Yields ledger
      (fun _ after => after.streams = ledger.streams) (fun _ after => after.streams = ledger.streams) :=
    Ledger.keeps_unnoted (fun _ _ => rfl) (driver.move start target) ledger
  by_cases isActive : target = .active
  · subst isActive
    rw [yields_move_active]
    refine (follows.startStreaming sound).mono (fun _ launched follows => ?_) fun _ _ follows => follows
    exact (moves launched.device).mono (fun _ _ streams => follows.with_device streams)
      fun _ _ streams => follows.with_device streams
  · rw [yields_move_other isActive]
    refine (moves between.device).mono (fun _ device streams => ?_)
      fun _ _ streams => follows.stopWorkers.with_device streams
    have stopped : Follows source before { between.stopWorkers with device } :=
      follows.stopWorkers.with_device streams
    dsimp only
    split
    · have programmed := (keeps_fitted_programAll { between.stopWorkers with device }).and
        (keeps_device_programAll driver.keeps_streams_program { between.stopWorkers with device })
      have onward (after : Prober (Ledger δ)) (same : after.fitted =
            ({ between.stopWorkers with device } : Prober (Ledger δ)).fitted ∧
          after.device.streams = device.streams) : Follows source before after := by
        rw [eq_of_fitted same.1]
        exact stopped.with_device same.2
      exact programmed.mono (fun _ => onward) fun _ => onward
    · exact stopped

/-! ## Runs -/

/-- After every call the queues are filled by the same session as before, or by that of now. -/
theorem follows_afterCall (sourced : Sourced source before) (sound : before.setup.Sound)
    (sinks : SinksKeep Ledger.streams before) (call : ProberCall) :
    Follows source before (afterCall driver.ledger before call) := by
  have stage : Keeps Ledger.streams driver.ledger.stage := Ledger.keeps_unnoted (fun _ _ => rfl) driver.stage
  by_cases traffic : call.IsTraffic
  · exact .inl ⟨(calm_afterCall stage sinks traffic).device, sourced.of_traffic traffic⟩
  · suffices preserved : (call.act driver.ledger).Yields before (fun _ => Follows source before)
        (fun _ => Follows source before) from preserved.run
    cases call with
    | configure probes sampleSizes =>
      have kept (after : Prober (Ledger δ))
          (taken : Taken Ledger.streams (fun _ => True) probes sampleSizes before after) :
          Follows source before after := by
        -- The queues are not looked at, so they are filled by the session that filled them before.
        cases taken with
        | refused device streams shape =>
          subst shape
          exact .inl ⟨streams, sourced.of_less (fun _ _ queued => queued) fun _ there => there⟩
        | taken device streams stage isTold inactive fits shape =>
          subst shape
          exact .inl ⟨streams, sourced.of_less (fun _ _ queued => queued) fun _ there => there⟩
      refine (yields_configure_taken probes sampleSizes ?_ ?_).mono (fun _ => kept) fun _ => kept
      · exact (stage before.device).mono (fun _ _ streams => ⟨trivial, streams⟩) fun _ _ streams => streams
      · exact fun _ => driver.keeps_streams_program
    | setActive active =>
      have preserved : (setActive driver.ledger active).Yields before
          (fun _ after => after.setup = before.setup ∧ Follows source before after)
          (fun _ after => after.setup = before.setup ∧ Follows source before after) := by
        refine Staged.yields_setActive_of_preserved ?_ ?_ active ⟨rfl, .inl ⟨rfl, sourced⟩⟩
        · intro state along
          have read (device : Ledger δ) (streams : device.streams = state.device.streams) :
              ({ state with device } : Prober (Ledger δ)).setup = before.setup ∧
                Follows source before { state with device } :=
            ⟨(setup_of_fitted rfl).trans along.1, along.2.with_device streams⟩
          exact yields_onDevice.mpr ((stage state.device).mono (fun _ => read) fun _ => read)
        · intro start target state along
          have sound : state.setup.Sound := along.1 ▸ sound
          rw [← along.1]
          exact (keeps_setup_move start target state).and (along.2.move sound start target)
      exact preserved.mono (fun _ _ along => along.2) fun _ _ along => along.2
    | isActive | dequeue | enqueue | reading | grant => exact absurd trivial traffic

theorem sourced_afterCall (sourced : Sourced source before) (sound : before.setup.Sound)
    (sinks : SinksKeep Ledger.streams before) (call : ProberCall) :
    Sourced (sourceAfter driver source before call) (afterCall driver.ledger before call) := by
  unfold sourceAfter
  dsimp only
  have follows : Follows source before (afterCall driver.ledger before call) :=
    follows_afterCall sourced sound sinks call
  rcases follows with ⟨same, sourced⟩ | ⟨more, sourced⟩
  · rw [if_pos same]
    exact sourced
  · rw [if_neg (by omega)]
    exact sourced

/-- After any run the queues are filled by the session that opened the extraction stream last. -/
theorem sourced_afterAll (calls : List ProberCall) : ∀ {source : Setup} {prober : Prober (Ledger δ)},
    Sourced source prober → prober.setup.Sound → SinksKeep Ledger.streams prober →
      Sourced (sourceOf driver source prober calls) (afterAll driver.ledger prober calls) := by
  induction calls with
  | nil => exact fun sourced _ _ => sourced
  | cons call calls ih =>
    intro source prober sourced sound sinks
    have injects : driver.ledger.InjectionKeeps Ledger.streams := ProbeDevice.injectionKeeps_ledger fun _ _ => rfl
    exact ih (sourced_afterCall sourced sound sinks call) (sound_afterCall sound call)
      (sinksKeep_afterCall injects sinks call)

theorem sourced_create (driver : ProbeDevice δ) (device : δ) (queueBytes : Nat) :
    Sourced (create driver device queueBytes).setup (create driver device queueBytes) where
  sound := sound_create device queueBytes
  blocks channel block queued := by
    obtain ⟨queue, found, member⟩ := queued
    have empty := List.eq_of_mem_replicate (List.mem_of_getElem? found)
    subst empty
    cases member
  points extractor there := by cases there

/-- Whatever the driver does and whatever was done before, a block that a client takes is a packet of the probe
that had the channel when the extraction stream was opened last. That is the probe the client asks for as
long as the probes are still the same. -/
theorem packet_of_dequeued (driver : ProbeDevice δ) (device : δ) (queueBytes : Nat) (calls : List ProberCall)
    (slot : Nat) :
    let fresh := create driver.ledger (Ledger.start device) queueBytes
    let prober := afterAll driver.ledger fresh calls
    let source := sourceOf driver fresh.setup fresh calls
    (dequeue slot).Yields prober
      (fun turn _ => ∀ block, turn = .finished (some block) →
        ∃ (channel other : Nat) (probe : Probe) (packet : Packet),
          prober.extractionMap.find? slot = some channel ∧
          (source.channelMap .extraction).find? other = some channel ∧
          source.probes[other]? = some probe ∧ Flow.extraction.wants probe = true ∧
          block = packet.writeCompact ∧ packet.point = probe.point ∧
          (source.probes = prober.probes → other = slot))
      (fun _ _ => True) := by
  intro fresh prober source
  have sourced : Sourced source prober :=
    sourced_afterAll calls (sourced_create driver.ledger _ queueBytes) (sound_create _ queueBytes) nofun
  have sound : prober.setup.Sound := sound_afterAll _ queueBytes calls
  rw [yields_dequeue]
  cases found : prober.queueOf .extraction slot with
  | error cause => trivial
  | ok entry =>
    obtain ⟨channel, queue⟩ := entry
    obtain ⟨isChannel, isQueue⟩ := queueOf_eq_ok found
    intro block taken
    obtain ⟨packet, isPacket, other, served, point⟩ :=
      sourced.blocks channel block ⟨queue, isQueue, BoundedQueue.mem_of_pop taken⟩
    obtain ⟨probe, isProbe, wanted⟩ := sourced.sound.probe served
    refine ⟨channel, other, probe, packet, isChannel, served, isProbe, wanted, isPacket, ?_, fun same => ?_⟩
    · rw [← point, List.getD_eq_getElem?_getD, isProbe]
      rfl
    · have current : (prober.setup.channelMap .extraction).find? other = some channel := by
        rw [(sound .extraction).1, show prober.setup.probes = source.probes from same.symm,
          ← (sourced.sound .extraction).1]
        exact served
      exact sound.injective current isChannel

/-- A packet of the first session below. -/
def stalePacket : Packet := ⟨⟨5⟩, 0, 0, 1, [0xAA]⟩

/-- A session extracts at one probe point and is stopped with a block in the queue; then another session is
to extract at another point. -/
def staleCalls : List ProberCall :=
  [.configure [⟨true, ⟨5⟩, .extract⟩] .empty, .setActive true, .reading (.chunk (Wire.write stalePacket)),
    .setActive false, .configure [⟨true, ⟨6⟩, .extract⟩] .empty]

/-- A client that asks for the probe of the other session is given a block that is no packet of its point. -/
theorem stale_block :
    let device : ScriptedProbeDevice := { script := { extractionChannels := 1, injectionChannels := 0 } }
    let prober := afterAll ScriptedProbeDevice.driver (create ScriptedProbeDevice.driver device 64) staleCalls
    prober.probes = [⟨true, ⟨6⟩, .extract⟩] ∧
    (dequeue 0).Yields prober
      (fun turn _ => ∃ block, turn = .finished (some block) ∧
        ∀ packet : Packet, block = packet.writeCompact → packet.point ≠ ⟨6⟩)
      (fun _ _ => False) := by
  intro device prober
  have given : (dequeue 0).Yields prober
      (fun turn _ => (match turn with | .finished result => result | .waits => none) =
        some stalePacket.writeCompact)
      (fun _ _ => False) := by
    decide +kernel
  refine ⟨by decide +kernel, given.mono (fun turn _ found => ?_) fun _ _ no => no⟩
  cases turn with
  | waits => cases found
  | finished result =>
    have found : result = some stalePacket.writeCompact := found
    refine ⟨stalePacket.writeCompact, by rw [found], fun packet isPacket isPoint => ?_⟩
    -- The probe point can be read off the block, so the block is no packet of another point.
    have shown := packet.wordAt_writeCompact
    rw [← isPacket, Packet.wordAt_writeCompact, isPoint] at shown
    cases shown

end Prober

end DspInspector

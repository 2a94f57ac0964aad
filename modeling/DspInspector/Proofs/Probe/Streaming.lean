import DspInspector.Proofs.Probe.Scripted
import DspInspector.Proofs.Probe.Slots
import Mathlib.Data.List.Nodup

/-!
# What a start that succeeds leaves

A session streams when each of its probes has its worker and an open queue (`Streaming`). A start that
succeeds launches the workers only if the driver was not active yet, and adds them to those that are there.
So whether the session streams afterwards depends on where the start began (`streaming_of_started`): it
always does when the driver is idle or owned, and otherwise only if what is left from before is ready. A
stop that the driver refuses is enough for a start to succeed with nothing streaming
(`not_streaming_after_refused_stop`).
-/

namespace DspInspector

open DspInspector.Action

variable {δ ω : Type}

namespace Prober

variable {driver : ProbeDevice δ} {stageOf : δ → Stage} {view : δ → ω} {prober before after : Prober δ}

/-- There is an extraction worker if there is something to extract, one injection worker for each probe
that injects and no other, and the queue of every probe is open. -/
structure Streaming (prober : Prober δ) : Prop where
  extractor : prober.extractor.isSome = true ↔ ∃ probe ∈ prober.probes, Flow.extraction.wants probe = true
  injectors : ∀ slot probe, prober.probes[slot]? = some probe → Flow.injection.wants probe = true →
    ∃ channel, prober.injectionMap.find? slot = some channel ∧
      prober.injectors.countP (·.channel == channel) = 1
  others : prober.injectors.length = prober.probes.countP Flow.injection.wants
  queues : ∀ flow slot probe, prober.probes[slot]? = some probe → Flow.wants flow probe = true →
    ∃ channel queue, (prober.channelMap flow).find? slot = some channel ∧
      (prober.queues flow)[channel]? = some queue ∧ queue.isOpen = true

/-- What is left from before does not keep a start from streaming. -/
def Ready (stageOf : δ → Stage) (prober : Prober δ) : Prop :=
  match stageOf prober.device with
  | .idle | .owned => True
  | .allocated => prober.injectors = [] ∧
    (prober.extractor.isSome = true → ∃ probe ∈ prober.probes, Flow.extraction.wants probe = true)
  | .active => prober.Streaming

theorem ready_of_active (there : stageOf prober.device = .active) : prober.Ready stageOf ↔ prober.Streaming := by
  rw [Ready, there]

theorem ready_of_allocated (there : stageOf prober.device = .allocated) :
    prober.Ready stageOf ↔ prober.injectors = [] ∧
      (prober.extractor.isSome = true → ∃ probe ∈ prober.probes, Flow.extraction.wants probe = true) := by
  rw [Ready, there]

/-- Where nothing streams and the driver is not active, nothing is in the way. -/
theorem Halted.ready (halted : prober.Halted) (inactive : stageOf prober.device ≠ .active) :
    prober.Ready stageOf := by
  unfold Ready
  split
  · trivial
  · trivial
  · refine ⟨halted.injectors, fun there => ?_⟩
    rw [halted.extractor] at there
    cases there
  · exact absurd ‹_› inactive

/-! ## Launched workers -/

theorem gates_cleared (queues : List BlockQueue) : gates (queues.map BoundedQueue.cleared) = gates queues := by
  simp [gates, BoundedQueue.cleared]

theorem Launched.setup_eq (launched : Launched stageOf before after) : after.setup = before.setup := by
  obtain ⟨between, prepared, joined⟩ := launched
  exact joined.setup_eq.trans prepared.setup_eq

/-- Injection workers are added to those that are there. -/
theorem Launched.injectors (launched : Launched stageOf before after) :
    ∃ more, after.injectors = before.injectors ++ more ∧ more.map (·.channel) = before.injectionMap.values := by
  obtain ⟨between, prepared, device, queues, more, rfl, -, -, channels, -⟩ := launched
  have same : between.injectors = before.injectors := by
    rcases prepared with ⟨-, rfl⟩ | ⟨-, _, _, _, rfl, -⟩
    · rfl
    · rfl
  exact ⟨more, congrArg (· ++ more) same, channels⟩

/-- The extraction worker is a new one, or the one from before if there is nothing to extract. -/
theorem Launched.extractor (launched : Launched stageOf before after) :
    after.extractor.isSome = true ↔ before.extractor.isSome = true ∨ before.extractionMap.isEmpty = false := by
  obtain ⟨between, prepared, device, queues, more, rfl, -⟩ := launched
  rcases prepared with ⟨empty, rfl⟩ | ⟨inUse, _, _, _, rfl, -⟩
  · simp [empty]
  · simp [inUse]

/-- The queues of all channels in use are open. -/
theorem Launched.gate (launched : Launched stageOf before after) {flow : Flow} {channel : Nat}
    (member : channel ∈ (before.channelMap flow).values) (inside : channel < (before.queues flow).length) :
    (gates (after.queues flow))[channel]? = some true := by
  obtain ⟨between, prepared, device, queues, more, rfl, -, gate, -⟩ := launched
  cases flow with
  | extraction =>
    rcases prepared with ⟨empty, rfl⟩ | ⟨-, _, points, tapped, rfl, -, rfl, -⟩
    · have none : between.extractionMap.entries = [] := List.isEmpty_iff.mp empty
      have member : channel ∈ between.extractionMap.entries.map (·.2) := member
      rw [none] at member
      cases member
    · change (gates ((openQueues before.extractionMap.values before.extractionQueues).map _))[channel]? = _
      rw [gates_cleared]
      exact isOpen_openQueues member inside
  | injection =>
    change (gates queues)[channel]? = some true
    rw [gate]
    have same : between.injectionQueues = before.injectionQueues := by
      rcases prepared with ⟨-, rfl⟩ | ⟨-, _, _, _, rfl, -⟩
      · rfl
      · rfl
    exact isOpen_openQueues member (same ▸ inside)

theorem countP_channel (injectors : List (Injector δ)) (channel : Nat) :
    injectors.countP (·.channel == channel) = (injectors.map (·.channel)).count channel := by
  rw [List.count, List.countP_map]
  rfl

/-- Launched workers stream unless others are in their way. -/
theorem Launched.streaming_iff (launched : Launched stageOf before after) (sound : before.setup.Sound) :
    after.Streaming ↔ before.injectors = [] ∧
      (before.extractor.isSome = true → ∃ probe ∈ before.probes, Flow.extraction.wants probe = true) := by
  have same := launched.setup_eq
  have probes : after.probes = before.probes := congrArg Setup.probes same
  have maps (flow : Flow) : after.channelMap flow = before.channelMap flow :=
    congrFun (congrArg Setup.channelMap same) flow
  obtain ⟨more, injectors, channels⟩ := launched.injectors
  have channels : more.map (·.channel) = List.range (before.probes.countP Flow.injection.wants) :=
    channels.trans (sound.values .injection)
  have count : more.length = before.probes.countP Flow.injection.wants := by
    simpa using congrArg List.length channels
  have inUse : before.extractionMap.isEmpty = false ↔ _ := sound.inUse .extraction
  constructor
  · intro streaming
    refine ⟨?_, fun there => ?_⟩
    · have total := streaming.others
      rw [injectors, probes, List.length_append, count] at total
      exact List.length_eq_zero_iff.mp (by omega)
    · rw [← probes]
      exact streaming.extractor.mp (launched.extractor.mpr (.inl there))
  · rintro ⟨none, leftover⟩
    rw [none, List.nil_append] at injectors
    refine ⟨?_, ?_, ?_, ?_⟩
    · rw [launched.extractor, inUse, probes]
      exact or_iff_right_of_imp leftover
    · intro slot probe found wanted
      rw [probes] at found
      obtain ⟨channel, isChannel, inside⟩ := sound.channel found wanted
      refine ⟨channel, (congrArg (·.find? slot) (maps .injection)).trans isChannel, ?_⟩
      rw [countP_channel, injectors, channels]
      exact List.count_eq_one_of_mem List.nodup_range (List.mem_range.mpr inside)
    · rw [injectors, count, probes]
    · intro flow slot probe found wanted
      rw [probes] at found
      obtain ⟨channel, isChannel, inside⟩ := sound.channel found wanted
      have member : channel ∈ (before.channelMap flow).values := by
        have values := sound.values flow
        change (before.channelMap flow).values = _ at values
        rw [values]
        exact List.mem_range.mpr inside
      obtain ⟨queue, isQueue, isOpen⟩ :=
        gate_of_gates (launched.gate member (Nat.lt_of_lt_of_le inside (sound flow).2))
      exact ⟨channel, queue, (congrArg (·.find? slot) (maps flow)).trans isChannel, isQueue, isOpen⟩

/-! ## Traffic -/

/-- Traffic does not keep a session from streaming. -/
theorem Streaming.of_calm (streaming : before.Streaming) (calm : Calm view before after) : after.Streaming := by
  have probes : after.probes = before.probes := congrArg Setup.probes calm.setup
  have maps (flow : Flow) : after.channelMap flow = before.channelMap flow :=
    congrFun (congrArg Setup.channelMap calm.setup) flow
  refine ⟨?_, ?_, ?_, ?_⟩
  · rw [calm.extractor, probes]
    exact streaming.extractor
  · intro slot probe found wanted
    rw [probes] at found
    obtain ⟨channel, isChannel, one⟩ := streaming.injectors slot probe found wanted
    refine ⟨channel, (congrArg (·.find? slot) (maps .injection)).trans isChannel, ?_⟩
    rw [countP_channel, calm.channels, ← countP_channel]
    exact one
  · have count := congrArg List.length calm.channels
    rw [List.length_map, List.length_map] at count
    rw [count, probes]
    exact streaming.others
  · intro flow slot probe found wanted
    rw [probes] at found
    obtain ⟨channel, queue, isChannel, isQueue, isOpen⟩ := streaming.queues flow slot probe found wanted
    have gate : (gates (after.queues flow))[channel]? = some true := by
      rw [calm.gates flow]
      simp [gates, isQueue, isOpen]
    obtain ⟨queue', isQueue', isOpen'⟩ := gate_of_gates gate
    exact ⟨channel, queue', (congrArg (·.find? slot) (maps flow)).trans isChannel, isQueue', isOpen'⟩

theorem Ready.of_calm (ready : before.Ready stageOf) (calm : Calm stageOf before after) :
    after.Ready stageOf := by
  unfold Ready at ready ⊢
  rw [calm.device]
  cases there : stageOf before.device with
  | idle => trivial
  | owned => trivial
  | active =>
    rw [there] at ready
    exact ready.of_calm calm
  | allocated =>
    rw [there] at ready
    obtain ⟨none, leftover⟩ := ready
    refine ⟨?_, ?_⟩
    · have channels := calm.channels
      rw [none] at channels
      simpa using channels
    · rw [calm.extractor, show after.probes = before.probes from congrArg Setup.probes calm.setup]
      exact leftover

/-! ## Starts -/

/-- A start that succeeds streams if and only if it was begun from a prober that was ready. -/
theorem yields_start_streaming (honest : driver.Honest stageOf) (orderly : Orderly stageOf prober)
    (sound : prober.setup.Sound) :
    (setActive driver true).Yields prober (fun _ after => after.Streaming ↔ prober.Ready stageOf)
      (fun _ _ => True) := by
  -- Along the walk it stays the same question whether the prober is ready; at the last step the answer is
  -- whether the launched workers stream.
  have walk : ((staged driver).walk .streaming).Yields prober
      (fun _ after => stageOf after.device = .active ∧ SinksKeep stageOf after ∧ after.setup.Sound ∧
        (after.Ready stageOf ↔ prober.Ready stageOf))
      (fun _ _ => True) := by
    refine Staged.yields_walk (fun stage state => stageOf state.device = stage ∧ SinksKeep stageOf state ∧
      state.setup.Sound ∧ (state.Ready stageOf ↔ prober.Ready stageOf)) ?_ ?_
    · refine yields_onDevice.mpr ((honest.stage prober.device).mono (fun stage device read => ?_)
        fun _ _ _ => trivial)
      have calm : Calm stageOf prober { prober with device } := .of_device read.2
      refine ⟨read.2.trans read.1.symm, calm.sinksKeep orderly.sinks, ?_, ?_⟩
      · rw [calm.setup]
        exact sound
      · exact ⟨fun ready => ready.of_calm calm.symm, fun ready => ready.of_calm calm⟩
    · intro source target next state along
      obtain ⟨there, sinks, sound, ready⟩ := along
      by_cases isActive : target = .active
      · subst isActive
        have allocated : stageOf state.device = .allocated := there.trans (Stage.allocated_of_next next)
        refine ((yields_move_launched honest sinks source).and (keeps_setup_move source .active state)).mono
          (fun _ after reached => ?_) fun _ _ _ => trivial
        obtain ⟨⟨arrived, sinks, launched, device, isLaunched, rfl⟩, kept⟩ := reached
        have calm : Calm (fun _ => ()) launched { launched with device } := .of_device rfl
        refine ⟨arrived, sinks, kept ▸ sound, ?_⟩
        rw [ready_of_active arrived, ← ready, ready_of_allocated allocated, ← isLaunched.streaming_iff sound]
        exact ⟨fun streaming => streaming.of_calm calm.symm, fun streaming => streaming.of_calm calm⟩
      · refine ((yields_move_halted honest isActive).and (keeps_setup_move source target state)).mono
          (fun _ after reached => ?_) fun _ _ _ => trivial
        obtain ⟨⟨arrived, halted⟩, kept⟩ := reached
        have begun : state.Ready stageOf := by
          unfold Ready
          rw [there]
          cases source <;> cases next <;> trivial
        refine ⟨arrived, halted.orderly.sinks, kept ▸ sound, ?_⟩
        exact iff_of_true (halted.ready (arrived ▸ isActive)) (ready.mp begun)
  refine Staged.yields_setActive (walk.mono (fun _ after reached => ?_) fun _ _ _ => trivial)
    fun _ _ _ => yields_of_forall (fun _ _ => trivial) fun _ _ => trivial
  obtain ⟨active, -, -, ready⟩ := reached
  rw [← ready, ready_of_active active]

/-! ## Runs -/

/-- Between two calls the session streams or nothing does, as the stage of the driver says. -/
structure Poised (stageOf : δ → Stage) (prober : Prober δ) : Prop where
  orderly : Orderly stageOf prober
  sound : prober.setup.Sound
  halted : stageOf prober.device ≠ .active → prober.Halted
  streaming : stageOf prober.device = .active → prober.Streaming

theorem Poised.ready (poised : Poised stageOf prober) : prober.Ready stageOf := by
  by_cases isActive : stageOf prober.device = .active
  · exact (ready_of_active isActive).mpr (poised.streaming isActive)
  · exact (poised.halted isActive).ready isActive

theorem Poised.of_calm (poised : Poised stageOf before) (calm : Calm stageOf before after) :
    Poised stageOf after where
  orderly := poised.orderly.of_calm calm
  sound := by
    rw [calm.setup]
    exact poised.sound
  halted inactive := calm.halted (poised.halted (calm.device ▸ inactive))
  streaming isActive := (poised.streaming (calm.device ▸ isActive)).of_calm calm

theorem Halted.poised (halted : prober.Halted) (sound : prober.setup.Sound)
    (inactive : stageOf prober.device ≠ .active) : Poised stageOf prober where
  orderly := halted.orderly
  sound := sound
  halted _ := halted
  streaming isActive := absurd isActive inactive

/-- As long as the driver recovers, every call leaves the session streaming or nothing. -/
theorem poised_afterCall (honest : driver.Honest stageOf) (poised : Poised stageOf prober) (call : ProberCall)
    (recovering : Recovering driver stageOf prober call) : Poised stageOf (afterCall driver prober call) := by
  by_cases traffic : call.IsTraffic
  · exact poised.of_calm (calm_afterCall honest.keeps_stage poised.orderly.sinks traffic)
  · suffices preserved : (call.act driver).Yields prober (fun _ => Poised stageOf) (fun _ => Poised stageOf)
      from preserved.run
    cases call with
    | configure probes sampleSizes =>
      have kept (after : Prober δ)
          (taken : Taken stageOf (· = stageOf prober.device) probes sampleSizes prober after) :
          Poised stageOf after := by
        cases taken with
        | refused device kept shape => exact shape ▸ poised.of_calm (.of_device kept)
        | taken device kept stage isStage inactive fits shape =>
          have halted := (poised.halted (isStage ▸ inactive)).reconfigured probes sampleSizes
          subst shape
          exact (halted.poised (sound_reconfigured fits) (isStage ▸ inactive)).of_calm (.of_device kept)
      exact (yields_configure_honest honest probes sampleSizes).mono (fun _ => kept) fun _ => kept
    | setActive active =>
      change (setActive driver active).Yields prober _ _
      have reached := yields_setActive_orderly honest poised.orderly active
      have setup : (setActive driver active).Yields prober _ _ := keeps_setup_setActive active prober
      cases ran : setActive driver active prober with
      | error cause after =>
        simp only [Yields, ran]
        have idle := recovering.of_error ran
        have same : after.setup = prober.setup := setup.of_error ran
        exact ((reached.of_error ran).halted (.inl idle)).poised (same ▸ poised.sound) (idle ▸ by decide)
      | ok value after =>
        simp only [Yields, ran]
        obtain ⟨arrived, orderly⟩ := reached.of_ok ran
        have same : after.setup = prober.setup := setup.of_ok ran
        cases active with
        | false => exact (orderly.halted (.inl arrived)).poised (same ▸ poised.sound) (arrived ▸ by decide)
        | true =>
          have streams := (yields_start_streaming honest poised.orderly poised.sound).of_ok ran
          exact ⟨orderly, same ▸ poised.sound, absurd arrived, fun _ => streams.mpr poised.ready⟩
    | isActive | dequeue | enqueue | reading | grant => exact absurd trivial traffic

/-- Whatever was done before, a start that succeeds streams if and only if the prober was ready for it. It
is, as long as the driver was not active in the beginning and every failure left it idle. -/
theorem streaming_of_started (honest : driver.Honest stageOf) (device : δ) (queueBytes : Nat)
    (calls : List ProberCall) :
    let fresh := create driver device queueBytes
    let prober := afterAll driver fresh calls
    (setActive driver true).Yields prober (fun _ after => after.Streaming ↔ prober.Ready stageOf)
      (fun _ _ => True) ∧
    (stageOf device ≠ .active → Recovers driver stageOf fresh calls → prober.Ready stageOf) := by
  intro fresh prober
  refine ⟨?_, fun inactive recovers => ?_⟩
  · have orderly := orderly_afterAll honest device queueBytes calls
    exact yields_start_streaming honest orderly (sound_afterAll device queueBytes calls)
  · have poised : Poised stageOf fresh :=
      (halted_create device queueBytes).poised (sound_create device queueBytes) inactive
    exact (afterAll_induction_of_recovers (fun _ call poised => poised_afterCall honest poised call) calls fresh
      recovers poised).ready

/-- A session that was stopped streams again when it is started again. -/
theorem sample_streaming :
    ScriptedProbeDevice.driver.Honest ScriptedProbeDevice.stageOf ∧
    (setActive ScriptedProbeDevice.driver true).Yields
      (afterAll ScriptedProbeDevice.driver (create ScriptedProbeDevice.driver sampleDevice 64)
        [.configure sampleProbes (.ofList [(1, 2)]), .setActive true, .setActive false])
      (fun _ after => after.Streaming) (fun _ _ => False) := by
  have honest := ScriptedProbeDevice.scripted_honest
  obtain ⟨streams, ready⟩ := streaming_of_started honest sampleDevice 64
    [.configure sampleProbes (.ofList [(1, 2)]), .setActive true, .setActive false]
  have begun := ready (by decide) (by decide +kernel)
  have succeeds : (setActive ScriptedProbeDevice.driver true).Yields
      (afterAll ScriptedProbeDevice.driver (create ScriptedProbeDevice.driver sampleDevice 64)
        [.configure sampleProbes (.ofList [(1, 2)]), .setActive true, .setActive false])
      (fun _ _ => True) (fun _ _ => False) := by
    decide +kernel
  refine ⟨honest, (streams.and succeeds).mono (fun _ after both => ?_) (fun _ _ both => both.2)⟩
  exact both.1.mpr begun

/-- An honest driver refuses one stop, and from then on a start succeeds with nothing streaming. -/
theorem not_streaming_after_refused_stop :
    let driver := ScriptedProbeDevice.driver.refusing fun device => device.notes.length == 8
    driver.Honest ScriptedProbeDevice.stageOf ∧
    (setActive driver true).Yields
      (afterAll driver (create driver sampleDevice 64)
        [.configure sampleProbes (.ofList [(1, 2)]), .setActive true, .setActive false])
      (fun _ after => ¬ after.Streaming) (fun _ _ => False) := by
  intro driver
  have empty : (setActive driver true).Yields
      (afterAll driver (create driver sampleDevice 64)
        [.configure sampleProbes (.ofList [(1, 2)]), .setActive true, .setActive false])
      (fun _ after => after.extractor.isSome = false ∧ after.probes = sampleProbes) (fun _ _ => False) := by
    decide +kernel
  refine ⟨ScriptedProbeDevice.scripted_honest.refusing _, empty.mono (fun _ after found => ?_) fun _ _ no => no⟩
  obtain ⟨none, probes⟩ := found
  intro streaming
  have wanted : ∃ probe ∈ after.probes, Flow.extraction.wants probe = true := by
    rw [probes]
    decide
  have there := streaming.extractor.mpr wanted
  rw [none] at there
  cases there

end Prober

end DspInspector

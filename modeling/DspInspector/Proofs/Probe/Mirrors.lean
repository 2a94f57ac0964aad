import DspInspector.Proofs.Probe.Floor
import DspInspector.Proofs.Probe.Traffic

/-!
# Calls that nobody interrupts

Where nothing is scripted, a call with pauses does on the prober what the call without pauses does
(`Mirrors`). This is passed on from the steps to a whole configuration, start or stop
(`mirrors_configure`, `mirrors_setActive`), and a client that pushes at once is one that enqueues
(`enqueue_of_push`).
-/

namespace DspInspector.Floor

open DspInspector.Action

variable {δ α β : Type} {driver : ProbeDevice δ}

/-- Where nothing is scripted, the action does on the prober what another does. -/
def Mirrors (action : Action ProbeError (Floor δ) α) (original : Action ProbeError (Prober δ) α) : Prop :=
  ∀ floor : Floor δ, floor.script = [] →
    action.Yields floor (fun value after => original floor.prober = .ok value after.prober ∧ after.script = [])
      (fun cause after => original floor.prober = .error cause after.prober ∧ after.script = [])

/-! ## Steps -/

theorem mirrors_pure (value : α) : Mirrors (δ := δ) (pure value) (pure value) := fun _ quiet => ⟨rfl, quiet⟩

theorem mirrors_throw (cause : ProbeError) : Mirrors (δ := δ) (α := α) (throw cause) (throw cause) :=
  fun _ quiet => ⟨rfl, quiet⟩

theorem mirrors_inside (original : Action ProbeError (Prober δ) α) : Mirrors (inside original) original := by
  intro floor quiet
  unfold inside
  rw [yields_onPart]
  cases ran : original floor.prober with
  | ok value after =>
    simp only [Yields, ran]
    exact ⟨trivial, quiet⟩
  | error cause after =>
    simp only [Yields, ran]
    exact ⟨trivial, quiet⟩

/-- A change of the floor, as far as the prober is concerned. -/
theorem mirrors_modify {change : Floor δ → Floor δ} {original : Prober δ → Prober δ}
    (same : ∀ floor, (change floor).prober = original floor.prober)
    (keeps : ∀ floor, (change floor).script = floor.script) : Mirrors (modify change) (modify original) := by
  intro floor quiet
  rw [yields_modify]
  refine ⟨?_, (keeps floor).trans quiet⟩
  rw [same]
  rfl

theorem Mirrors.bind {action : Action ProbeError (Floor δ) α} {original : Action ProbeError (Prober δ) α}
    {next : α → Action ProbeError (Floor δ) β} {next' : α → Action ProbeError (Prober δ) β}
    (first : Mirrors action original) (second : ∀ value, Mirrors (next value) (next' value)) :
    Mirrors (action >>= next) (original >>= next') := by
  intro floor quiet
  rw [yields_bind]
  refine (first floor quiet).mono (fun value between reached => ?_) (fun cause after stuck => ?_)
  · obtain ⟨ran, quiet⟩ := reached
    have onward : (original >>= next') floor.prober = next' value between.prober := by
      change EStateM.bind original next' floor.prober = _
      simp only [EStateM.bind, ran]
    rw [onward]
    exact second value between quiet
  · obtain ⟨ran, quiet⟩ := stuck
    refine ⟨?_, quiet⟩
    change EStateM.bind original next' floor.prober = _
    simp only [EStateM.bind, ran]

/-- A pause is nothing. -/
theorem yields_paused {action : Action ProbeError (Floor δ) α} {floor : Floor δ} (quiet : floor.script = [])
    {done : α → Floor δ → Prop} {failed : ProbeError → Floor δ → Prop} :
    (do pause; action).Yields floor done failed ↔ action.Yields floor done failed := by
  rw [yields_bind, pause, yields_modify, quiet]

theorem Mirrors.paused {action : Action ProbeError (Floor δ) α} {original : Action ProbeError (Prober δ) α}
    (mirrors : Mirrors action original) : Mirrors (do pause; action) original :=
  fun floor quiet => (yields_paused quiet).mpr (mirrors floor quiet)

theorem Mirrors.mapError {action : Action ProbeError (Floor δ) α} {original : Action ProbeError (Prober δ) α}
    (mirrors : Mirrors action original) (change : ProbeError → ProbeError) :
    Mirrors (Action.mapError change action) (Action.mapError change original) := by
  intro floor quiet
  rw [yields_mapError]
  refine (mirrors floor quiet).mono (fun value after reached => ?_) (fun cause after stuck => ?_)
  · exact ⟨by simp only [Action.mapError, reached.1], reached.2⟩
  · exact ⟨by simp only [Action.mapError, stuck.1], stuck.2⟩

theorem Mirrors.attempt {action : Action ProbeError (Floor δ) α} {original : Action ProbeError (Prober δ) α}
    (mirrors : Mirrors action original) :
    Mirrors (Action.attempt action : Action ProbeError (Floor δ) (Except ProbeError α))
      (Action.attempt original) := by
  intro floor quiet
  rw [yields_attempt]
  refine (mirrors floor quiet).mono (fun value after reached => ?_) (fun cause after stuck => ?_)
  · exact ⟨by simp only [Action.attempt, reached.1], reached.2⟩
  · exact ⟨by simp only [Action.attempt, stuck.1], stuck.2⟩

theorem mirrors_ofExcept (result : Except ProbeError α) :
    Mirrors (δ := δ) (Action.ofExcept result) (Action.ofExcept result) := by
  intro floor quiet
  cases result with
  | ok value => exact ⟨rfl, quiet⟩
  | error cause => exact ⟨rfl, quiet⟩

theorem mirrors_ite {condition : Prop} [Decidable condition] {one two : Action ProbeError (Floor δ) α}
    {one' two' : Action ProbeError (Prober δ) α} (onTrue : Mirrors one one') (onFalse : Mirrors two two') :
    Mirrors (if condition then one else two) (if condition then one' else two') := by
  split
  · exact onTrue
  · exact onFalse

/-! ## Configuration -/

theorem mirrors_programFrom (flow : Flow) (probes : List Probe) :
    ∀ channel, Mirrors (programFrom driver flow channel probes)
      (Prober.programFrom driver flow channel probes) := by
  induction probes with
  | nil => exact fun _ => mirrors_pure ()
  | cons probe probes ih =>
    intro channel
    have split : Prober.programFrom driver flow channel (probe :: probes) =
        (do
          Prober.programFrom driver flow channel [probe]
          Prober.programFrom driver flow (channel + 1) probes) := by
      simp only [Prober.programFrom, bind_assoc, pure_bind]
    rw [split]
    exact ((mirrors_inside _).bind fun _ => ih (channel + 1)).paused

theorem mirrors_programAll : Mirrors (programAll driver) (Prober.programAll driver) :=
  have flow (flow : Flow) : Mirrors (program driver flow) (Prober.program driver flow) :=
    (mirrors_inside get).bind fun _ => mirrors_programFrom flow _ 0
  (flow .extraction).bind fun _ => flow .injection

/-- A configuration that nobody disturbs is the configuration of the prober. -/
theorem mirrors_configure (probes : List Probe) (sampleSizes : SampleSizes) :
    Mirrors (configure driver probes sampleSizes) (Prober.configure driver probes sampleSizes) := by
  refine (mirrors_inside get).bind fun prober => (mirrors_ofExcept _).bind fun active => Mirrors.paused ?_
  refine ((mirrors_inside _).mapError _).bind fun stage => ?_
  have programmed : Mirrors (if stage = .owned then programAll driver else pure ())
      (if stage = .owned then Prober.programAll driver else pure ()) :=
    mirrors_ite mirrors_programAll (mirrors_pure ())
  have taken := (mirrors_inside (δ := δ) (modify fun prober => { prober with
      probes, sampleSizes
      extractionMap := Prober.compact active.extraction
      injectionMap := Prober.compact active.injection })).bind fun _ => programmed
  exact mirrors_ite ((mirrors_throw _).bind fun _ => taken) taken

/-! ## Streaming -/

/-- A worker is started by filling its buffer. -/
theorem startInjector_eq (channel sampleBytes : Nat) (sink : Sink δ) (prober : Prober δ) :
    Prober.startInjector channel sink sampleBytes prober =
      match Prober.supply channel sink (sink.size / sampleBytes) { sampleBytes } prober with
      | .ok feeder after => .ok ⟨channel, sink, feeder, true, false⟩ after
      | .error cause after => .error cause after := by
  cases written : Injector.writeSamples sink (sink.size / sampleBytes) { sampleBytes }
      (prober.injectionQueues.getD channel (.ofBudget 0), prober.device) with
  | ok feeder after =>
    simp only [Prober.startInjector, Prober.supply, Prober.injectionQueue, Injector.start, Action.onPart, bind,
      EStateM.bind, pure, EStateM.pure, written]
    rfl
  | error cause after =>
    simp only [Prober.startInjector, Prober.supply, Prober.injectionQueue, Injector.start, Action.onPart, bind,
      EStateM.bind, written]
    rfl

/-- A worker that is enrolled and fills its buffer at once is one that is started. -/
theorem mirrors_prefill (slot channel sampleBytes : Nat) (sink : Sink δ) :
    Mirrors (do modify (enrol slot channel sampleBytes); pause; prefill sink)
      (do
        let injector ← Prober.startInjector channel sink sampleBytes
        modify fun prober => { prober with injectors := prober.injectors ++ [injector] }) := by
  intro floor quiet
  have enrolled : (enrol slot channel sampleBytes floor).script = [] := quiet
  rw [yields_bind, yields_modify, yields_paused enrolled, yields_prefill rfl]
  have started := startInjector_eq channel sampleBytes sink floor.prober
  cases ran : Prober.supply channel sink (sink.size / sampleBytes) { sampleBytes } floor.prober with
  | ok feeder after =>
    rw [ran] at started
    simp only [Yields, enrol, ran]
    refine ⟨?_, quiet⟩
    change EStateM.bind _ _ _ = _
    simp only [EStateM.bind, started]
    rfl
  | error cause after =>
    rw [ran] at started
    simp only [Yields, enrol, ran]
    refine ⟨?_, quiet⟩
    change EStateM.bind _ _ _ = _
    simp only [EStateM.bind, started]

theorem mirrors_startInjection (slot channel : Nat) :
    Mirrors (startInjection driver slot channel) (Prober.startInjection driver slot channel) := by
  refine Mirrors.paused ((mirrors_inside _).bind fun _ => (mirrors_inside get).bind fun prober => ?_)
  cases prober.sampleSizes.find? slot with
  | none => exact mirrors_throw _
  | some sampleBytes =>
    cases sampleBytes with
    | zero => exact mirrors_throw _
    | succ less => exact Mirrors.paused ((mirrors_inside _).bind fun sink => mirrors_prefill slot channel _ sink)

theorem mirrors_startWorkers : Mirrors (startWorkers driver) (Prober.startWorkers driver) := by
  have each (entries : List (Nat × Nat)) :
      Mirrors (startInjections driver entries) (Prober.startInjections driver entries) := by
    induction entries with
    | nil => exact mirrors_pure ()
    | cons entry entries ih => exact (mirrors_startInjection entry.1 entry.2).bind fun _ => ih
  exact Mirrors.paused ((mirrors_inside _).bind fun _ => (mirrors_inside get).bind fun _ => each _)

/-! ## Stopping -/

theorem mirrors_haltMany (count : Nat) :
    Mirrors (haltMany (δ := δ) count) (modify Prober.haltFirst^[count]) := by
  induction count with
  | zero => exact mirrors_pure ()
  | succ count ih =>
    have first : Mirrors (δ := δ) (modify haltFirst) (modify Prober.haltFirst) := by
      refine mirrors_modify (fun floor => ?_) (fun floor => ?_)
      · unfold haltFirst
        split
        · rename_i none
          rw [Prober.haltFirst, none]
        · rfl
      · unfold haltFirst
        split <;> rfl
    exact (first.bind fun _ => ih).paused

theorem mirrors_closeBelow (count : Nat) :
    Mirrors (δ := δ) (closeBelow count)
      (modify fun prober =>
        (List.range count).foldl (fun prober channel => prober.closeQueue channel) prober) := by
  induction count with
  | zero => exact mirrors_pure ()
  | succ count ih =>
    have last : Mirrors (δ := δ) (modify (closeQueue count)) (modify (Prober.closeQueue count)) :=
      mirrors_modify (fun _ => rfl) fun _ => rfl
    have both := ih.bind fun _ => last.paused
    rw [List.range_succ]
    simp only [List.foldl_append]
    exact both

theorem haltFirst_iterate (injectors : List (Injector δ)) :
    ∀ prober : Prober δ, prober.injectors = injectors →
    Prober.haltFirst^[injectors.length] prober =
      { prober with
        injectors := []
        injectionQueues := Prober.stopInjectors injectors prober.injectionQueues } := by
  induction injectors with
  | nil =>
    intro prober none
    have empty : Prober.stopInjectors ([] : List (Injector δ)) prober.injectionQueues =
        prober.injectionQueues := rfl
    rw [List.length_nil, Function.iterate_zero, id_eq, empty, ← none]
  | cons injector injectors ih =>
    intro prober some
    have halted : prober.haltFirst = { prober with
        injectors
        injectionQueues :=
          prober.injectionQueues.modify injector.channel fun queue => (injector.stop queue).2 } := by
      rw [Prober.haltFirst, some]
    rw [List.length_cons, Function.iterate_succ_apply, halted, ih _ rfl]
    rfl

theorem getElem?_closeQueues (count : Nat) (prober : Prober δ) :
    ∃ queues, (List.range count).foldl (fun prober channel => prober.closeQueue channel) prober =
        { prober with injectionQueues := queues } ∧
      ∀ channel, queues[channel]? = (prober.injectionQueues[channel]?).map fun queue =>
        if channel < count then queue.closed else queue := by
  induction count with
  | zero => exact ⟨prober.injectionQueues, rfl, fun channel => by simp⟩
  | succ count ih =>
    obtain ⟨queues, folded, found⟩ := ih
    refine ⟨queues.modify count BoundedQueue.closed, ?_, fun channel => ?_⟩
    · rw [List.range_succ, List.foldl_append, folded]
      rfl
    · rw [List.getElem?_modify, found]
      cases prober.injectionQueues[channel]? with
      | none => rfl
      | some queue =>
        by_cases last : count = channel
        · simp [last]
        · have below : channel < count + 1 ↔ channel < count := by omega
          simp [last, below]

/-- When all queues are closed one by one, all are closed. -/
theorem closeQueues_eq (prober : Prober δ) :
    (List.range prober.injectionQueues.length).foldl (fun prober channel => prober.closeQueue channel) prober =
      { prober with injectionQueues := prober.injectionQueues.map BoundedQueue.closed } := by
  obtain ⟨queues, folded, found⟩ := getElem?_closeQueues prober.injectionQueues.length prober
  have all : queues = prober.injectionQueues.map BoundedQueue.closed := by
    refine List.ext_getElem? fun channel => ?_
    rw [found, List.getElem?_map]
    cases isThere : prober.injectionQueues[channel]? with
    | none => rfl
    | some queue =>
      have inside : channel < prober.injectionQueues.length := (List.getElem?_eq_some_iff.mp isThere).1
      simp [inside]
  rw [folded, all]

/-- The workers are stopped when one after the other is stopped and then one queue after the other is closed. -/
theorem stopWorkers_eq (prober : Prober δ) :
    (List.range prober.injectionQueues.length).foldl (fun prober channel => prober.closeQueue channel)
        (Prober.haltFirst^[prober.injectors.length] { prober with
          extractor := none
          extractionQueues := prober.extractionQueues.map BoundedQueue.closed }) =
      prober.stopWorkers := by
  have count : prober.injectionQueues.length =
      (Prober.stopInjectors prober.injectors prober.injectionQueues).length :=
    (Prober.length_stopInjectors prober.injectors prober.injectionQueues).symm
  have halted := haltFirst_iterate prober.injectors { prober with
    extractor := none
    extractionQueues := prober.extractionQueues.map BoundedQueue.closed } rfl
  rw [halted, count]
  exact closeQueues_eq { prober with
    extractor := none
    extractionQueues := prober.extractionQueues.map BoundedQueue.closed
    injectors := []
    injectionQueues := Prober.stopInjectors prober.injectors prober.injectionQueues }

theorem mirrors_stop : Mirrors (δ := δ) stop (modify Prober.stopWorkers) := by
  have steps := (mirrors_inside (δ := δ) (modify fun prober => { prober with
      extractor := none
      extractionQueues := prober.extractionQueues.map BoundedQueue.closed })).bind fun _ =>
    (mirrors_inside get).bind fun prober => (mirrors_haltMany prober.injectors.length).bind fun _ =>
      mirrors_closeBelow prober.injectionQueues.length
  intro floor quiet
  have whole : (modify Prober.stopWorkers : Action ProbeError (Prober δ) PUnit) floor.prober =
      EStateM.Result.ok PUnit.unit _ :=
    congrArg (EStateM.Result.ok PUnit.unit) (stopWorkers_eq floor.prober).symm
  rw [whole]
  exact steps floor quiet

/-! ## Starting and stopping -/

theorem mirrors_startStreaming : Mirrors (startStreaming driver) (Prober.startStreaming driver) := by
  refine mirrors_startWorkers.attempt.bind fun outcome => ?_
  cases outcome with
  | ok value => exact mirrors_pure ()
  | error cause => exact mirrors_stop.bind fun _ => mirrors_throw cause

theorem mirrors_move (source target : Stage) :
    Mirrors (move driver source target) (Prober.move driver source target) := by
  have programmed : Mirrors (if source = .idle ∧ target = .owned then programAll driver else pure ())
      (if source = .idle ∧ target = .owned then Prober.programAll driver else pure ()) :=
    mirrors_ite mirrors_programAll (mirrors_pure ())
  have onward := Mirrors.paused
    ((mirrors_inside (Prober.onDevice (driver.move source target))).bind fun _ => programmed)
  exact mirrors_ite (mirrors_startStreaming.bind fun _ => onward) (mirrors_stop.bind fun _ => onward)

theorem mirrors_walk (goal : Goal) : Mirrors ((staged driver).walk goal) ((Prober.staged driver).walk goal) := by
  have onward (stage : Stage) :
      Mirrors ((staged driver).walkFrom goal stage) ((Prober.staged driver).walkFrom goal stage) := by
    induction stage using Staged.walkFrom.induct goal with
    | case1 stage last =>
      rw [Staged.walkFrom_of_none last, Staged.walkFrom_of_none last]
      exact mirrors_pure ()
    | case2 stage target step ih =>
      rw [Staged.walkFrom_of_some step, Staged.walkFrom_of_some step]
      exact ((mirrors_move stage target).mapError _).bind fun _ => ih
  have stage : Mirrors (staged driver).readStage (Prober.staged driver).readStage :=
    (Mirrors.paused (mirrors_inside (Prober.onDevice driver.stage))).mapError _
  exact stage.bind onward

/-- A start or a stop that nobody disturbs is that of the prober. -/
theorem mirrors_setActive (active : Bool) :
    Mirrors (setActive driver active) (Prober.setActive driver active) := by
  cases active with
  | false => exact mirrors_walk .rest
  | true =>
    refine (mirrors_walk .streaming).attempt.bind fun outcome => ?_
    cases outcome with
    | ok value => exact mirrors_pure ()
    | error cause =>
      have back : Mirrors (staged driver).stopQuietly (Prober.staged driver).stopQuietly :=
        (mirrors_walk .rest).attempt.bind fun _ => mirrors_pure ()
      exact back.bind fun _ => mirrors_throw cause

/-! ## Pushing -/

/-- A client that looks its channel up and pushes at once is one that enqueues. -/
theorem enqueue_of_push (slot : Nat) (block : List UInt8) (floor : Floor δ) :
    ((floor.lookUp slot block).push floor.waiting.length).prober =
      ((Prober.enqueue slot block).run floor.prober).2 := by
  have enqueued : (Prober.enqueue slot block).Yields floor.prober
      (fun _ after => ((floor.lookUp slot block).push floor.waiting.length).prober = after)
      (fun _ after => ((floor.lookUp slot block).push floor.waiting.length).prober = after) := by
    rw [Prober.yields_enqueue, lookUp]
    cases found : floor.prober.queueOf .injection slot with
    | error cause =>
      dsimp only
      rw [push, List.getElem?_eq_none (Nat.le_refl _)]
    | ok entry =>
      obtain ⟨channel, queue⟩ := entry
      obtain ⟨-, isQueue⟩ := Prober.queueOf_eq_ok found
      have here : floor.prober.injectionQueue channel = queue := by
        have found : floor.prober.injectionQueues[channel]? = some queue := isQueue
        rw [Prober.injectionQueue, List.getD_eq_getElem?_getD, found]
        rfl
      dsimp only
      rw [push, List.getElem?_append_right (Nat.le_refl _), Nat.sub_self, List.getElem?_cons_zero]
      dsimp only
      rw [here]
      have unchanged : floor.prober = { floor.prober with
          injectionQueues := floor.prober.injectionQueues.set channel queue } := by
        obtain ⟨inside, isThere⟩ := List.getElem?_eq_some_iff.mp isQueue
        have same : floor.prober.injectionQueues.set channel queue = floor.prober.injectionQueues :=
          isThere ▸ List.set_getElem_self inside
        rw [same]
      rcases queue.push_cases block with pushed | pushed | ⟨-, pushed⟩
      · rw [pushed]
        exact unchanged
      · rw [pushed]
        exact unchanged
      · rw [pushed]
        rfl
  exact enqueued.run

end DspInspector.Floor

import DspInspector.Proofs.Probe.Runs
import Mathlib.Data.List.Basic

/-!
# Channels and slots are in range

A start takes queues by the channels and probes by the slots of the channel maps. `startStreamingAt` is the same
start with an index that crashes when there is nothing, `afterAllAt` a run that starts in this way. Every channel
map keeps to the queues and the probes (`Setup.Sound.inRange`), so the crash is never reached, and a lookup fails
for the slots only that have no channel (`channels_in_range`).
-/

namespace DspInspector

open DspInspector.Action

variable {δ α β ε σ : Type}

namespace Action

/-- Two sequences end alike if their beginnings do and they go on alike from there. -/
theorem bind_congr_of {one other : Action ε σ α} {next next' : α → Action ε σ β} {state : σ}
    (first : one state = other state)
    (second : other.Yields state (fun value after => next value after = next' value after) fun _ _ => True) :
    (one >>= next) state = (other >>= next') state := by
  cases ran : other state with
  | ok value after =>
    rw [bind_of_ok (first.trans ran), bind_of_ok ran]
    exact second.of_ok ran
  | error cause after => rw [bind_of_error (first.trans ran), bind_of_error ran]

/-- Wherever the action fails, its failure has a property. -/
def FailsWith (holds : ε → Prop) (action : Action ε σ α) : Prop :=
  ∀ state, action.Yields state (fun _ _ => True) fun cause _ => holds cause

theorem FailsWith.bind {holds : ε → Prop} {action : Action ε σ α} {next : α → Action ε σ β}
    (first : FailsWith holds action) (second : ∀ value, FailsWith holds (next value)) :
    FailsWith holds (action >>= next) := fun state =>
  yields_bind.mpr ((first state).mono (fun value after _ => second value after) fun _ _ fails => fails)

end Action

namespace Staged

variable {one other : Staged σ}

/-- Two services that step alike wherever a property holds, which their steps preserve, walk alike. -/
theorem walkFrom_congr {holds : σ → Prop} (moves : ∀ source target state, holds state → one.move source target state =
      other.move source target state)
    (step : ∀ source target state, holds state →
      (other.move source target).Yields state (fun _ => holds) fun _ => holds)
    (goal : Goal) (stage : Stage) (state : σ) (begins : holds state) :
    one.walkFrom goal stage state = other.walkFrom goal stage state := by
  cases next : stage.next goal with
  | none => rw [walkFrom_of_none next, walkFrom_of_none next]
  | some target =>
    rw [walkFrom_of_some next, walkFrom_of_some next]
    refine bind_congr_of ?_ ?_
    · simp only [mapError, moves stage target state begins]
    · rw [yields_mapError]
      refine (step stage target state begins).mono (fun _ after stays => ?_) fun _ _ _ => trivial
      exact walkFrom_congr moves step goal target after stays
termination_by stage.distance goal
decreasing_by exact Nat.lt_of_succ_le (Nat.le_of_eq (Stage.distance_of_next next))

/-- They start and stop alike. -/
theorem setActive_congr (holds : σ → Prop) (stage : one.stage = other.stage)
    (read : ∀ state, holds state → other.stage.Yields state (fun _ => holds) fun _ => holds)
    (moves : ∀ source target state, holds state → one.move source target state =
      other.move source target state)
    (step : ∀ source target state, holds state →
      (other.move source target).Yields state (fun _ => holds) fun _ => holds)
    (active : Bool) {state : σ} (begins : holds state) :
    one.setActive active state = other.setActive active state := by
  have walk (goal : Goal) (state : σ) (begins : holds state) : one.walk goal state = other.walk goal state := by
    refine bind_congr_of (by rw [readStage, readStage, stage]) ?_
    rw [readStage, yields_mapError]
    exact (read state begins).mono (fun place after stays => walkFrom_congr moves step goal place after stays)
      fun _ _ _ => trivial
  have preserved : (other.walk .streaming).Yields state (fun _ => holds) (fun _ => holds) :=
    yields_walk (fun _ => holds) (read state begins) fun _ state along => step _ _ state along
  cases active with
  | false => exact walk .rest state begins
  | true =>
    refine bind_congr_of (by simp only [attempt, walk .streaming state begins]) ?_
    rw [yields_attempt]
    refine preserved.mono (fun _ _ _ => rfl) fun cause after stays => ?_
    have back : one.stopQuietly after = other.stopQuietly after := by
      refine bind_congr_of ?_ (yields_of_forall (fun _ _ => rfl) fun _ _ => trivial)
      simp only [attempt, stop, walk .rest after stays]
    exact bind_congr_of back (yields_of_forall (fun _ _ => rfl) fun _ _ => trivial)

end Staged

/-- The driver itself fails with a cause when it is moved, opened or written to. -/
inductive ProbeDevice.Reports (driver : ProbeDevice δ) (cause : ProbeError) : Prop where
  | move {source target : Stage} {device after : δ} (failed : driver.move source target device = .error cause after)
  | openExtraction {device after : δ} (failed : driver.openExtraction device = .error cause after)
  | openInjection {channel : Nat} {device after : δ} (failed : driver.openInjection channel device = .error cause after)
  | write {channel : Nat} {device opened later after : δ} {sink : Sink δ} {bytes : List UInt8}
    (given : driver.openInjection channel device = .ok sink opened)
    (failed : sink.write bytes later = .error cause after)

/-- If the cause is a wrong probe, it was the driver that said so. -/
def ProbeDevice.Explains (driver : ProbeDevice δ) (cause : ProbeError) : Prop :=
  ∀ slot, cause = .wrongProbe slot → driver.Reports cause

namespace Prober

variable {driver : ProbeDevice δ} {crash : Action ProbeError (Prober δ) Empty} {prober : Prober δ} {setup : Setup}

/-! ## Starting with an index that can crash -/

/-- An item of a list by its index. There is none beyond the end. -/
def item (crash : Action ProbeError (Prober δ) Empty) (items : List α) (index : Nat) :
    Action ProbeError (Prober δ) α :=
  match items[index]? with
  | some item => pure item
  | none => do nomatch ← crash

def preparePointsAt (crash : Action ProbeError (Prober δ) Empty) : List (Nat × Nat) → OrderedMap ProbePoint Nat →
    Action ProbeError (Prober δ) (OrderedMap ProbePoint Nat)
  | [], points => pure points
  | (slot, channel) :: entries, points => do
    let prober ← get
    let queue ← item crash prober.extractionQueues channel
    set { prober with extractionQueues := prober.extractionQueues.set channel queue.opened }
    let probe ← item crash prober.probes slot
    if points.contains probe.point then throw (.duplicatePoint probe.point)
    else preparePointsAt crash entries (points.insert probe.point channel)

def startExtractionAt (crash : Action ProbeError (Prober δ) Empty) (driver : ProbeDevice δ) :
    Action ProbeError (Prober δ) Unit := do
  let prober ← get
  if prober.extractionMap.isEmpty then pure ()
  else do
    let points ← preparePointsAt crash prober.extractionMap.entries .empty
    onDevice driver.openExtraction
    modify fun prober =>
      let started := Extraction.start points prober.extractionQueues prober.events
      { prober with extractor := some started.extractor, extractionQueues := started.queues }

/-- Starts the injection workers of some slots, once the queue of each is there. -/
def startInjectionsAt (crash : Action ProbeError (Prober δ) Empty) (driver : ProbeDevice δ) :
    List (Nat × Nat) → Action ProbeError (Prober δ) Unit
  | [] => pure ()
  | (slot, channel) :: entries => do
    let prober ← get
    let _ ← item crash prober.injectionQueues channel
    startInjection driver slot channel
    startInjectionsAt crash driver entries

def startWorkersAt (crash : Action ProbeError (Prober δ) Empty) (driver : ProbeDevice δ) :
    Action ProbeError (Prober δ) Unit := do
  startExtractionAt crash driver
  let prober ← get
  startInjectionsAt crash driver prober.injectionMap.entries

def startStreamingAt (crash : Action ProbeError (Prober δ) Empty) (driver : ProbeDevice δ) :
    Action ProbeError (Prober δ) Unit := do
  match ← (startWorkersAt crash driver).attempt with
  | .ok _ => pure ()
  | .error cause =>
    modify stopWorkers
    throw cause

def moveAt (crash : Action ProbeError (Prober δ) Empty) (driver : ProbeDevice δ) (source target : Stage) :
    Action ProbeError (Prober δ) Unit := do
  if target = .active then startStreamingAt crash driver else modify stopWorkers
  onDevice (driver.move source target)
  if source = .idle ∧ target = .owned then programAll driver

def stagedAt (crash : Action ProbeError (Prober δ) Empty) (driver : ProbeDevice δ) : Staged (Prober δ) where
  stage := onDevice driver.stage
  move := moveAt crash driver

/-- What a call does, where a start takes queues and probes by an index that can crash. -/
def actAt (crash : Action ProbeError (Prober δ) Empty) (driver : ProbeDevice δ) :
    ProberCall → Action ProbeError (Prober δ) Unit
  | .setActive active => (stagedAt crash driver).setActive active
  | call => call.act driver

/-- The prober after some calls, where a start can crash. -/
def afterAllAt (crash : Action ProbeError (Prober δ) Empty) (driver : ProbeDevice δ) (prober : Prober δ)
    (calls : List ProberCall) : Prober δ :=
  calls.foldl (fun prober call => ((actAt crash driver call).run prober).2) prober

/-! ## The crash is not reached -/

theorem Setup.Sound.inRange (sound : setup.Sound) {flow : Flow} {slot channel : Nat}
    (found : (setup.channelMap flow).find? slot = some channel) :
    channel < setup.channels flow ∧ slot < setup.probes.length := by
  obtain ⟨probe, isProbe, wanted⟩ := sound.probe found
  obtain ⟨channel', found', below⟩ := sound.channel isProbe wanted
  cases found.symm.trans found'
  exact ⟨Nat.lt_of_lt_of_le below (sound flow).2, (List.getElem?_eq_some_iff.mp isProbe).1⟩

/-- The entries of a flow are below the number of its queues and the number of probes. -/
def Within (prober : Prober δ) (flow : Flow) (entries : List (Nat × Nat)) : Prop :=
  ∀ entry ∈ entries, entry.2 < (prober.queues flow).length ∧ entry.1 < prober.probes.length

theorem within_channelMap (sound : prober.setup.Sound) (flow : Flow) :
    prober.Within flow (prober.channelMap flow).entries := fun _ member =>
  sound.inRange (OrderedMap.find?_eq_some_iff.mpr member)

theorem Within.congr {after : Prober δ} {flow : Flow} {entries : List (Nat × Nat)} (within : prober.Within flow entries)
    (same : after.setup = prober.setup) : after.Within flow entries := by
  intro entry member
  have channels : (after.queues flow).length = (prober.queues flow).length :=
    congrFun (congrArg Setup.channels same) flow
  rw [channels, show after.probes = prober.probes from congrArg Setup.probes same]
  exact within entry member

theorem item_of_lt {items : List α} {index : Nat} (inside : index < items.length) :
    item crash items index = pure items[index] := by
  rw [item, List.getElem?_eq_getElem inside]

theorem preparePointsAt_eq (entries : List (Nat × Nat)) :
    ∀ (points : OrderedMap ProbePoint Nat) (prober : Prober δ), prober.Within .extraction entries →
      preparePointsAt crash entries points prober = preparePoints entries points prober := by
  induction entries with
  | nil => exact fun _ _ _ => rfl
  | cons entry entries ih =>
    obtain ⟨slot, channel⟩ := entry
    intro points prober within
    obtain ⟨isQueue, isProbe⟩ := within (slot, channel) List.mem_cons_self
    have isQueue : channel < prober.extractionQueues.length := isQueue
    have opened : prober.extractionQueues.set channel prober.extractionQueues[channel].opened =
        openQueue channel prober.extractionQueues := (List.modify_eq_set_get BoundedQueue.opened isQueue).symm
    have probe : prober.probes.getD slot Probe.disabled = prober.probes[slot] := by
      simp [List.getD_eq_getElem?_getD, isProbe]
    change (item crash prober.extractionQueues channel >>= fun queue => _) prober = _
    rw [item_of_lt isQueue, pure_bind]
    change (item crash prober.probes slot >>= fun probe => _) _ = _
    rw [item_of_lt isProbe, pure_bind, opened]
    let after : Prober δ := { prober with extractionQueues := openQueue channel prober.extractionQueues }
    change _ = (if points.contains (prober.probes.getD slot Probe.disabled).point then throw (.duplicatePoint _)
      else preparePoints entries (points.insert (prober.probes.getD slot Probe.disabled).point channel)) after
    rw [probe]
    -- Opening a queue leaves their number as it is, so the other entries are in range as before.
    have further : after.Within .extraction entries := by
      intro entry member
      refine ⟨?_, (within entry (List.mem_cons_of_mem _ member)).2⟩
      simpa [after, queues, openQueue] using (within entry (List.mem_cons_of_mem _ member)).1
    split
    · rfl
    · exact ih _ after further

theorem startExtractionAt_eq (sound : prober.setup.Sound) :
    startExtractionAt crash driver prober = startExtraction driver prober := by
  refine bind_congr_of rfl ?_
  rw [yields_get]
  split
  · rfl
  · exact bind_congr_of (preparePointsAt_eq _ _ prober (within_channelMap sound .extraction))
      (yields_of_forall (fun _ _ => rfl) fun _ _ => trivial)

theorem startInjectionsAt_eq (entries : List (Nat × Nat)) :
    ∀ prober : Prober δ, prober.Within .injection entries →
      startInjectionsAt crash driver entries prober = startInjections driver entries prober := by
  induction entries with
  | nil => exact fun _ _ => rfl
  | cons entry entries ih =>
    intro prober within
    have isQueue : entry.2 < prober.injectionQueues.length := (within entry List.mem_cons_self).1
    change (item crash prober.injectionQueues entry.2 >>= fun _ => _) prober = _
    rw [item_of_lt isQueue, pure_bind]
    refine bind_congr_of rfl ?_
    have started : (startInjection driver entry.1 entry.2).Yields prober _ _ :=
      yields_startInjection driver.injectionKeeps_nothing entry.1 entry.2
    refine started.mono (fun _ after joined => ih after ?_) fun _ _ _ => trivial
    have later : prober.Within .injection entries := fun other member => within other (List.mem_cons_of_mem _ member)
    exact later.congr joined.setup_eq

theorem startWorkersAt_eq (sound : prober.setup.Sound) :
    startWorkersAt crash driver prober = startWorkers driver prober := by
  refine bind_congr_of (startExtractionAt_eq sound) ?_
  have opens : driver.openExtraction.Yields prober.device (fun _ _ => True) fun _ _ => True :=
    yields_of_forall (fun _ _ => trivial) fun _ _ => trivial
  refine (yields_startExtraction opens).mono (fun _ between prepared => ?_) fun _ _ _ => trivial
  have sound : between.setup.Sound := prepared.setup_eq ▸ sound
  exact startInjectionsAt_eq _ between (within_channelMap sound .injection)

theorem startStreamingAt_eq (sound : prober.setup.Sound) :
    startStreamingAt crash driver prober = startStreaming driver prober :=
  bind_congr_of (by simp only [attempt, startWorkersAt_eq sound])
    (yields_of_forall (fun _ _ => rfl) fun _ _ => trivial)

theorem moveAt_eq (sound : prober.setup.Sound) (source target : Stage) :
    moveAt crash driver source target prober = move driver source target prober := by
  unfold moveAt move
  split
  · exact bind_congr_of (startStreamingAt_eq sound) (yields_of_forall (fun _ _ => rfl) fun _ _ => trivial)
  · rfl

/-- No call of a prober whose channels are in use by its probes gets to the crash. -/
theorem actAt_eq (sound : prober.setup.Sound) (call : ProberCall) :
    actAt crash driver call prober = call.act driver prober := by
  cases call with
  | setActive active =>
    have alike : (stagedAt crash driver).stage = (staged driver).stage := rfl
    refine Staged.setActive_congr (fun state => state.setup.Sound) alike ?_ ?_ ?_ active sound
    · exact fun _ sound => yields_onDevice.mpr (yields_of_forall (fun _ _ => sound) fun _ _ => sound)
    · exact fun source target _ sound => moveAt_eq sound source target
    · intro source target state sound
      exact (keeps_setup_move source target state).mono (fun _ _ same => same ▸ sound) fun _ _ same => same ▸ sound
  | configure | isActive | dequeue | enqueue | reading | grant => rfl

theorem afterAllAt_eq (calls : List ProberCall) : ∀ prober : Prober δ, prober.setup.Sound →
    afterAllAt crash driver prober calls = afterAll driver prober calls := by
  induction calls with
  | nil => exact fun _ _ => rfl
  | cons call calls ih =>
    intro prober sound
    have same : ((actAt crash driver call).run prober).2 = afterCall driver prober call := by
      simp only [Action.run, actAt_eq sound call, afterCall]
    exact (congrArg (afterAllAt crash driver · calls) same).trans (ih _ (sound_afterCall sound call))

/-! ## Whose failures -/

theorem explains_of_ne {cause : ProbeError} (other : ∀ slot, cause ≠ .wrongProbe slot) : driver.Explains cause :=
  fun slot same => absurd same (other slot)

theorem explains_stepFailure {cause : ProbeError} (explains : driver.Explains cause) :
    driver.Explains (Staged.stepFailure cause) := by
  cases cause with
  | driver message => exact explains_of_ne (by simp [Staged.stepFailure])
  | _ => exact explains

theorem failsWith_of_reports {action : Action ProbeError δ α}
    (reports : ∀ {device cause after}, action device = .error cause after → driver.Reports cause) :
    FailsWith driver.Explains action := by
  intro device
  cases ran : action device with
  | ok value after => simp only [Yields, ran]
  | error cause after =>
    simp only [Yields, ran]
    exact fun _ _ => reports ran

theorem failsWith_mapError {ε : Type} {action : Action ε (Prober δ) α} {change : ε → ProbeError}
    (explains : ∀ cause, driver.Explains (change cause)) : FailsWith driver.Explains (mapError change action) :=
  fun _ => yields_mapError.mpr (yields_of_forall (fun _ _ => trivial) fun cause _ => explains cause)

theorem failsWith_preparePoints (entries : List (Nat × Nat)) : ∀ points : OrderedMap ProbePoint Nat,
    FailsWith driver.Explains (preparePoints entries points : Action ProbeError (Prober δ) _) := by
  induction entries with
  | nil => exact fun _ _ => trivial
  | cons entry entries ih =>
    intro points prober
    rw [preparePoints, yields_bind, yields_modify, yields_bind, yields_get]
    dsimp only
    split
    · exact explains_of_ne (by simp)
    · exact ih _ _

theorem failsWith_startExtraction : FailsWith driver.Explains (startExtraction driver) := by
  intro prober
  rw [startExtraction, yields_bind, yields_get]
  split
  · trivial
  · refine (failsWith_preparePoints _ _).bind (fun points => ?_) prober
    intro prober
    rw [yields_bind, yields_onDevice]
    exact failsWith_of_reports .openExtraction prober.device

theorem failsWith_writeSamples {channel count : Nat} {sink : Sink δ} {feeder : Feeder} {device opened : δ}
    (given : driver.openInjection channel device = .ok sink opened) :
    FailsWith driver.Explains (Injector.writeSamples sink count feeder) := by
  rintro ⟨queue, later⟩
  unfold Injector.writeSamples
  cases written : sink.write (feeder.next count queue).1 later with
  | ok value after => simp only [Yields, written]
  | error cause after =>
    simp only [Yields, written]
    exact fun _ _ => .write given written

theorem failsWith_startInjection (slot channel : Nat) :
    FailsWith driver.Explains (startInjection driver slot channel) := by
  intro prober
  rw [startInjection, yields_bind, yields_modify, yields_bind, yields_get]
  split
  · exact explains_of_ne (by simp)
  · exact explains_of_ne (by simp)
  · rename_i sampleBytes _ _
    rw [yields_bind, yields_onDevice]
    cases ran : driver.openInjection channel prober.device with
    | error cause after =>
      simp only [Yields, ran]
      exact fun _ _ => .openInjection ran
    | ok sink after =>
      rw [yields_of_ok ran, yields_bind, startInjector, Injector.start, yields_onPart, yields_bind]
      refine (failsWith_writeSamples ran _).mono (fun _ _ _ => trivial) fun _ _ explains => explains

theorem failsWith_startInjections (entries : List (Nat × Nat)) :
    FailsWith driver.Explains (startInjections driver entries) := by
  induction entries with
  | nil => exact fun _ => trivial
  | cons entry entries ih => exact (failsWith_startInjection entry.1 entry.2).bind fun _ => ih

theorem failsWith_startStreaming : FailsWith driver.Explains (startStreaming driver) := by
  have workers : FailsWith driver.Explains (startWorkers driver) :=
    failsWith_startExtraction.bind fun _ prober => failsWith_startInjections prober.injectionMap.entries prober
  intro prober
  rw [startStreaming, yields_bind, yields_attempt]
  exact (workers prober).mono (fun _ _ _ => trivial) fun _ _ explains => explains

theorem failsWith_programFrom (flow : Flow) (probes : List Probe) : ∀ channel,
    FailsWith driver.Explains (programFrom driver flow channel probes) := by
  induction probes with
  | nil => exact fun _ _ => trivial
  | cons probe probes ih =>
    intro channel
    have named (message : String) : driver.Explains (.driver message) := explains_of_ne (by simp)
    exact (failsWith_mapError fun _ => named _).bind fun _ => ih (channel + 1)

theorem failsWith_programAll : FailsWith driver.Explains (programAll driver) :=
  FailsWith.bind (fun _ => yields_bind.mpr (failsWith_programFrom .extraction _ 0 _)) fun _ _ =>
    yields_bind.mpr (failsWith_programFrom .injection _ 0 _)

theorem failsWith_move (source target : Stage) : FailsWith driver.Explains (move driver source target) := by
  intro prober
  by_cases isActive : target = .active
  · subst isActive
    rw [yields_move_active]
    refine (failsWith_startStreaming prober).mono (fun _ between _ => ?_) fun _ _ explains => explains
    exact failsWith_of_reports .move between.device
  · rw [yields_move_other isActive]
    refine (failsWith_of_reports .move prober.device).mono (fun _ device _ => ?_) fun _ _ explains => explains
    dsimp only
    split
    · exact failsWith_programAll _
    · trivial

theorem failsWith_setActive (active : Bool) : FailsWith driver.Explains (setActive driver active) := by
  have walk (goal : Goal) : FailsWith driver.Explains ((staged driver).walk goal) := by
    intro prober
    refine Staged.yields_walk (fun _ _ => True) ?_ fun _ state _ => ?_
    · exact yields_of_forall (fun _ _ => trivial) fun _ _ => explains_of_ne (by simp)
    · exact (failsWith_move _ _ state).mono (fun _ _ _ => trivial) fun _ _ explains => explains_stepFailure explains
  cases active with
  | false => exact walk .rest
  | true =>
    refine fun prober => Staged.yields_setActive (walk .streaming prober) fun cause after explains => ?_
    exact yields_of_forall (fun _ _ => explains) fun _ _ => explains

theorem failsWith_configure (probes : List Probe) (sampleSizes : SampleSizes) :
    FailsWith driver.Explains (configure driver probes sampleSizes) := by
  intro prober
  rw [yields_configure]
  cases checked : prober.checkSession probes with
  | error cause =>
    rcases checkSession_eq_error checked with ⟨rfl, -⟩ | ⟨rfl, -⟩ | ⟨rfl, -⟩
    all_goals exact explains_of_ne (by simp)
  | ok active =>
    refine yields_of_forall (fun stage device => ?_) fun _ _ => explains_of_ne (by simp)
    cases stage with
    | active => exact explains_of_ne (by simp)
    | idle | allocated => trivial
    | owned => exact failsWith_programAll _

/-! ## Lookups -/

/-- An enabled probe of the flow is in the slot. -/
def Enabled (prober : Prober δ) (flow : Flow) (slot : Nat) : Prop :=
  ∃ probe, prober.probes[slot]? = some probe ∧ flow.wants probe = true

theorem queueOf_cases (sound : prober.setup.Sound) (flow : Flow) (slot : Nat) :
    match prober.queueOf flow slot with
    | .ok _ => prober.Enabled flow slot
    | .error cause => cause = .unknownProbe slot ∧ ¬ prober.Enabled flow slot := by
  unfold queueOf channelOf
  cases found : (prober.channelMap flow).find? slot with
  | none =>
    refine ⟨rfl, ?_⟩
    rintro ⟨probe, isProbe, wanted⟩
    obtain ⟨channel, isChannel, -⟩ := sound.channel isProbe wanted
    cases found.symm.trans isChannel
  | some channel =>
    have inside : channel < (prober.queues flow).length := (sound.inRange found).1
    simp only [bind, Except.bind, List.getElem?_eq_getElem inside]
    exact sound.probe found

theorem yields_dequeue_lookup (sound : prober.setup.Sound) (slot : Nat) :
    (dequeue slot).Yields prober (fun _ _ => prober.Enabled .extraction slot) fun cause after =>
      cause = .unknownProbe slot ∧ after = prober ∧ ¬ prober.Enabled .extraction slot := by
  have lookup := queueOf_cases sound .extraction slot
  rw [yields_dequeue]
  cases found : prober.queueOf .extraction slot with
  | ok entry =>
    rw [found] at lookup
    exact lookup
  | error cause =>
    rw [found] at lookup
    exact ⟨lookup.1, rfl, lookup.2⟩

theorem yields_enqueue_lookup (sound : prober.setup.Sound) (slot : Nat) (block : List UInt8) :
    (enqueue slot block).Yields prober (fun _ _ => prober.Enabled .injection slot) fun cause after =>
      cause = .unknownProbe slot ∧ after = prober ∧ ¬ prober.Enabled .injection slot := by
  have lookup := queueOf_cases sound .injection slot
  rw [yields_enqueue]
  cases found : prober.queueOf .injection slot with
  | ok entry =>
    rw [found] at lookup
    exact lookup
  | error cause =>
    rw [found] at lookup
    exact ⟨lookup.1, rfl, lookup.2⟩

theorem explains_act (sound : prober.setup.Sound) (call : ProberCall) :
    (call.act driver).Yields prober (fun _ _ => True) fun cause _ => driver.Explains cause := by
  cases call with
  | configure probes sampleSizes => exact failsWith_configure probes sampleSizes prober
  | setActive active => exact failsWith_setActive active prober
  | isActive =>
    change (do let _ ← isActive driver).Yields prober _ _
    rw [yields_bind, isActive, Staged.isActive, Staged.readStage, staged, yields_bind, yields_mapError]
    refine yields_of_forall (fun stage after => ?_) fun _ _ => explains_of_ne (by simp)
    cases stage with
    | idle | active => trivial
    | owned | allocated => exact explains_of_ne (by simp)
  | dequeue slot =>
    refine yields_bind.mpr ((yields_dequeue_lookup sound slot).mono (fun _ _ _ => trivial) fun _ _ unknown => ?_)
    rw [unknown.1]
    exact explains_of_ne (by simp)
  | enqueue slot block =>
    refine yields_bind.mpr ((yields_enqueue_lookup sound slot block).mono (fun _ _ _ => trivial) fun _ _ unknown => ?_)
    rw [unknown.1]
    exact explains_of_ne (by simp)
  | reading | grant => trivial

/-! ## Queues -/

/-- No call changes the number of queues. -/
theorem channels_afterCall (call : ProberCall) :
    (afterCall driver prober call).setup.channels = prober.setup.channels := by
  by_cases traffic : call.IsTraffic
  · rw [(calm_of_traffic traffic).setup]
  · suffices preserved : (call.act driver).Yields prober (fun _ after => after.setup.channels = prober.setup.channels)
        (fun _ after => after.setup.channels = prober.setup.channels) from preserved.run
    cases call with
    | configure probes sampleSizes =>
      have kept (after : Prober δ)
          (taken : Taken (fun _ => ()) (fun _ => True) probes sampleSizes prober after) :
          after.setup.channels = prober.setup.channels := by
        cases taken with
        | refused device _ shape => rw [shape]; rfl
        | taken device _ stage _ inactive fits shape => rw [shape]; rfl
      exact (yields_configure_any probes sampleSizes).mono (fun _ => kept) fun _ => kept
    | setActive active =>
      refine (keeps_setup_setActive active prober).mono (fun _ after same => ?_) fun _ after same => ?_
      · exact congrArg Setup.channels same
      · exact congrArg Setup.channels same
    | isActive | dequeue | enqueue | reading | grant => exact absurd trivial traffic

theorem channels_afterAll (device : δ) (queueBytes : Nat) (calls : List ProberCall) (flow : Flow) :
    ((afterAll driver (create driver device queueBytes) calls).queues flow).length = driver.channels flow device := by
  let fresh := create driver device queueBytes
  have same : (afterAll driver fresh calls).setup.channels = fresh.setup.channels :=
    afterAll_induction (motive := fun prober => prober.setup.channels = fresh.setup.channels)
      (fun _ call same => (channels_afterCall call).trans same) calls _ rfl
  refine (congrFun same flow).trans ?_
  cases flow <;> exact List.length_replicate

/-- After any run, each entry of a channel map is below the number of queues, which is that of the driver's
channels in the beginning, and below the number of probes. No index of a start is out of range, then or in a call
that follows, and no call ends with a wrong probe unless the driver says so. A lookup fails exactly for the slots
without an enabled probe of its flow. -/
theorem channels_in_range (driver : ProbeDevice δ) (crash : Action ProbeError (Prober δ) Empty) (device : δ)
    (queueBytes : Nat) (calls : List ProberCall) :
    let fresh := create driver device queueBytes
    let prober := afterAll driver fresh calls
    (∀ flow, (prober.queues flow).length = driver.channels flow device ∧
      prober.Within flow (prober.channelMap flow).entries) ∧
    afterAllAt crash driver fresh calls = prober ∧
    (∀ call : ProberCall, actAt crash driver call prober = call.act driver prober ∧
      (call.act driver).Yields prober (fun _ _ => True) fun cause _ => driver.Explains cause) ∧
    ∀ slot, (dequeue slot).Yields prober (fun _ _ => prober.Enabled .extraction slot)
        (fun cause after => cause = .unknownProbe slot ∧ after = prober ∧ ¬ prober.Enabled .extraction slot) ∧
      ∀ block, (enqueue slot block).Yields prober (fun _ _ => prober.Enabled .injection slot)
        fun cause after => cause = .unknownProbe slot ∧ after = prober ∧ ¬ prober.Enabled .injection slot := by
  intro fresh prober
  have sound : prober.setup.Sound := sound_afterAll device queueBytes calls
  refine ⟨fun flow => ⟨channels_afterAll device queueBytes calls flow, within_channelMap sound flow⟩, ?_, ?_, ?_⟩
  · exact afterAllAt_eq calls fresh (sound_create device queueBytes)
  · exact fun call => ⟨actAt_eq sound call, explains_act sound call⟩
  · exact fun slot => ⟨yields_dequeue_lookup sound slot, yields_enqueue_lookup sound slot⟩

end Prober

end DspInspector

import DspInspector.Probe.Prober
import DspInspector.Proofs.Data.Maps
import DspInspector.Proofs.Data.Outcomes

/-!
# Starting and stopping the workers

Each function that takes part in a start is described by one theorem, which says what the prober looks
like when it succeeds and when it fails: which queues it opened, which workers it added and what it left
alone. A start that fails anywhere stops everything it had started (`yields_startStreaming`).
-/

namespace DspInspector

open DspInspector.Action

variable {δ ω : Type}

namespace BoundedQueue

theorem isOpen_tryPop {α : Type} (queue : BoundedQueue α) : queue.tryPop.2.isOpen = queue.isOpen := by
  unfold tryPop
  split <;> rfl

end BoundedQueue

namespace Feeder

theorem isOpen_gather (wanted : Nat) (queue : BlockQueue) :
    (gather wanted queue).2.2.isOpen = queue.isOpen := by
  rw [gather]
  split
  · rfl
  · split
    · rfl
    · rename_i block taken
      exact (isOpen_gather (wanted - block.length) queue.tryPop.2).trans queue.isOpen_tryPop
termination_by queue.items.length
decreasing_by exact BoundedQueue.length_of_tryPop ‹_›

theorem isOpen_next (count : Nat) (feeder : Feeder) (queue : BlockQueue) :
    (feeder.next count queue).2.2.isOpen = queue.isOpen :=
  isOpen_gather _ queue

end Feeder

/-- Opening injection streams, and writing to the sinks they give, leaves something about the device as
it is. -/
def ProbeDevice.InjectionKeeps (driver : ProbeDevice δ) (view : δ → ω) : Prop :=
  ∀ channel device, (driver.openInjection channel).Yields device
    (fun sink after => view after = view device ∧ ∀ bytes, Keeps view (sink.write bytes))
    (fun _ after => view after = view device)

theorem ProbeDevice.injectionKeeps_nothing (driver : ProbeDevice δ) : driver.InjectionKeeps fun _ => () := fun _ _ =>
  yields_of_forall (fun sink _ => ⟨rfl, fun bytes => keeps_nothing (sink.write bytes)⟩) fun _ _ => rfl

/-- Writing samples leaves the queue as open as it was. -/
theorem Injector.yields_writeSamples {view : δ → ω} {sink : Sink δ}
    (keeps : ∀ bytes, Keeps view (sink.write bytes)) (count : Nat) (feeder : Feeder) (queue : BlockQueue)
    (device : δ) :
    (writeSamples sink count feeder).Yields (queue, device)
      (fun _ after => after.1.isOpen = queue.isOpen ∧ view after.2 = view device)
      (fun _ after => after.1.isOpen = queue.isOpen ∧ view after.2 = view device) := by
  have kept := keeps (feeder.next count queue).1 device
  have gate := feeder.isOpen_next count queue
  unfold writeSamples
  cases written : sink.write (feeder.next count queue).1 device with
  | ok value after =>
    have same := kept.of_ok written
    simp only [Yields, written]
    exact ⟨gate, same⟩
  | error cause after =>
    have same := kept.of_error written
    simp only [Yields, written]
    exact ⟨gate, same⟩

namespace Prober

variable {prober : Prober δ} {driver : ProbeDevice δ} {view : δ → ω}

@[simp] theorem yields_onDevice {α : Type} {action : Action ProbeError δ α}
    {done : α → Prober δ → Prop} {failed : ProbeError → Prober δ → Prop} :
    (onDevice action).Yields prober done failed ↔
      action.Yields prober.device (fun value device => done value { prober with device })
        (fun cause device => failed cause { prober with device }) :=
  yields_onPart

/-! ## Open queues -/

/-- Which queues are open. -/
def gates (queues : List BlockQueue) : List Bool := queues.map (·.isOpen)

theorem length_of_gates {queues queues' : List BlockQueue} (same : gates queues = gates queues') :
    queues.length = queues'.length := by
  simpa [gates] using congrArg List.length same

/-- Opens the queues of some channels. -/
def openQueues (channels : List Nat) (queues : List BlockQueue) : List BlockQueue :=
  channels.foldl (fun queues channel => openQueue channel queues) queues

theorem gates_openQueue (channel : Nat) (queues : List BlockQueue) :
    gates (openQueue channel queues) = (gates queues).modify channel fun _ => true := by
  unfold gates openQueue
  refine List.ext_getElem? fun place => ?_
  by_cases here : channel = place
  · subst here
    cases found : queues[channel]? <;> simp [found, BoundedQueue.opened]
  · simp [here]

theorem items_openQueues (channels : List Nat) : ∀ queues : List BlockQueue,
    (openQueues channels queues).map (·.items) = queues.map (·.items) := by
  induction channels with
  | nil => exact fun _ => rfl
  | cons channel channels ih =>
    intro queues
    refine (ih (openQueue channel queues)).trans (List.ext_getElem? fun place => ?_)
    by_cases here : channel = place
    · subst here
      cases found : queues[channel]? <;> simp [openQueue, found, BoundedQueue.opened]
    · simp [openQueue, here]

theorem openQueues_append (channels more : List Nat) (queues : List BlockQueue) :
    openQueues (channels ++ more) queues = openQueues more (openQueues channels queues) :=
  List.foldl_append

/-- What is open afterwards depends only on what was open before. -/
theorem gates_openQueues_congr (channels : List Nat) : ∀ {queues queues' : List BlockQueue},
    gates queues = gates queues' → gates (openQueues channels queues) = gates (openQueues channels queues') := by
  induction channels with
  | nil => exact fun same => same
  | cons channel channels ih =>
    intro queues queues' same
    exact ih (by rw [gates_openQueue, gates_openQueue, same])

theorem gate_of_gates {queues : List BlockQueue} {channel : Nat} (gate : (gates queues)[channel]? = some true) :
    ∃ queue, queues[channel]? = some queue ∧ queue.isOpen = true := by
  simpa [gates] using gate

private theorem gate_openQueues (channels : List Nat) : ∀ {queues : List BlockQueue} {channel : Nat},
    channel ∈ channels ∧ channel < queues.length ∨ (gates queues)[channel]? = some true →
      (gates (openQueues channels queues))[channel]? = some true := by
  induction channels with
  | nil =>
    intro queues channel opened
    rcases opened with ⟨member, -⟩ | gate
    · cases member
    · exact gate
  | cons first channels ih =>
    intro queues channel opened
    change (gates (openQueues channels (openQueue first queues)))[channel]? = some true
    -- Opening the first queue turns a channel that is still to come into one that is open already.
    apply ih
    rw [gates_openQueue, List.getElem?_modify]
    rcases opened with ⟨member, inside⟩ | gate
    · rcases List.mem_cons.mp member with rfl | later
      · exact .inr (by simp [gates, inside])
      · exact .inl ⟨later, by simpa [openQueue] using inside⟩
    · exact .inr (by simp [gate])

/-- The queues of the channels are open. -/
theorem isOpen_openQueues {channels : List Nat} {queues : List BlockQueue} {channel : Nat}
    (member : channel ∈ channels) (inside : channel < queues.length) :
    (gates (openQueues channels queues))[channel]? = some true :=
  gate_openQueues channels (.inl ⟨member, inside⟩)

theorem gates_set {queues : List BlockQueue} {channel : Nat} {queue : BlockQueue}
    (same : queue.isOpen = (queues.getD channel (.ofBudget 0)).isOpen) :
    gates (queues.set channel queue) = gates queues := by
  unfold gates
  refine List.ext_getElem? fun place => ?_
  by_cases here : channel = place
  · subst here
    by_cases inside : channel < queues.length
    · simpa [inside, List.getD_eq_getElem?_getD] using same
    · simp [inside]
  · simp [here]

/-! ## Injection workers -/

/-- The sinks of the workers leave something about the device as it is. -/
def SinksKeep (view : δ → ω) (prober : Prober δ) : Prop :=
  ∀ injector ∈ prober.injectors, ∀ bytes, Keeps view (injector.sink.write bytes)

/-- Afterwards there are injection workers on some more channels, and the queues of some channels are
open; besides, only the device and what the queues hold may be different. -/
def Joined (view : δ → ω) (channels opened : List Nat) (before after : Prober δ) : Prop :=
  ∃ device queues injectors,
    after = { before with
      device, injectionQueues := queues, injectors := before.injectors ++ injectors } ∧
    view device = view before.device ∧
    gates queues = gates (openQueues opened before.injectionQueues) ∧
    injectors.map (·.channel) = channels ∧
    ∀ injector ∈ injectors, ∀ bytes, Keeps view (injector.sink.write bytes)

theorem Joined.trans {channels opened more further : List Nat} {before between after : Prober δ}
    (first : Joined view channels opened before between)
    (second : Joined view more further between after) :
    Joined view (channels ++ more) (opened ++ further) before after := by
  obtain ⟨device, queues, injectors, rfl, kept, gate, served, sinks⟩ := first
  obtain ⟨device', queues', injectors', rfl, kept', gate', served', sinks'⟩ := second
  refine ⟨device', queues', injectors ++ injectors', by rw [← List.append_assoc], kept'.trans kept, ?_,
    by rw [List.map_append, served, served'], ?_⟩
  · rw [gate', openQueues_append]
    exact gates_openQueues_congr further gate
  · intro injector member
    rcases List.mem_append.mp member with early | late
    · exact sinks injector early
    · exact sinks' injector late

/-- The device alone is different. -/
theorem joined_of_device {device : δ} (kept : view device = view prober.device) :
    Joined view [] [] prober { prober with device } :=
  ⟨device, prober.injectionQueues, [], by simp, kept, rfl, rfl, nofun⟩

theorem yields_startInjector {sink : Sink δ} (keeps : ∀ bytes, Keeps view (sink.write bytes))
    (channel sampleBytes : Nat) :
    (startInjector channel sink sampleBytes).Yields prober
      (fun injector after => Joined view [] [] prober after ∧ injector.channel = channel ∧ injector.sink = sink)
      (fun _ after => Joined view [] [] prober after) := by
  unfold startInjector Injector.start
  rw [yields_onPart, yields_bind]
  have joined (queue : BlockQueue) (device : δ)
      (gate : queue.isOpen = (prober.injectionQueues.getD channel (.ofBudget 0)).isOpen)
      (kept : view device = view prober.device) : Joined view [] [] prober
        { prober with device, injectionQueues := prober.injectionQueues.set channel queue } :=
    ⟨device, prober.injectionQueues.set channel queue, [], by simp, kept, gates_set gate, rfl, nofun⟩
  refine (Injector.yields_writeSamples keeps _ _ _ _).mono (fun feeder after written => ?_)
    (fun cause after written => joined after.1 after.2 written.1 written.2)
  exact ⟨joined after.1 after.2 written.1 written.2, rfl, rfl⟩

/-- A worker is started on the channel, or at least its queue is opened. -/
theorem yields_startInjection (keeps : driver.InjectionKeeps view) (slot channel : Nat) :
    (startInjection driver slot channel).Yields prober
      (fun _ after => Joined view [channel] [channel] prober after)
      (fun _ after => Joined view [] [channel] prober after) := by
  have opened : Joined view [] [channel] prober
      { prober with injectionQueues := openQueue channel prober.injectionQueues } :=
    ⟨prober.device, openQueue channel prober.injectionQueues, [], by simp, rfl, rfl, rfl, nofun⟩
  unfold startInjection
  rw [yields_bind, yields_modify, yields_bind, yields_get]
  split
  · exact opened
  · exact opened
  · rw [yields_bind, yields_onDevice]
    refine (keeps channel prober.device).mono (fun sink device given => ?_)
      (fun cause device kept => opened.trans (joined_of_device kept))
    rw [yields_bind]
    have reached : Joined view [] [channel] prober _ := opened.trans (joined_of_device given.1)
    refine (yields_startInjector given.2 channel _).mono (fun injector after started => ?_)
      (fun cause after started => reached.trans started)
    obtain ⟨joined, isChannel, isSink⟩ := started
    rw [yields_modify]
    have added : Joined view [channel] [] after { after with injectors := after.injectors ++ [injector] } := by
      refine ⟨after.device, after.injectionQueues, [injector], rfl, rfl, rfl, by simp [isChannel], ?_⟩
      intro other member
      rw [List.mem_singleton.mp member, isSink]
      exact given.2
    exact (reached.trans joined).trans added

theorem yields_startInjections (keeps : driver.InjectionKeeps view) (entries : List (Nat × Nat)) :
    ∀ prober : Prober δ, (startInjections driver entries).Yields prober
      (fun _ after => Joined view (entries.map (·.2)) (entries.map (·.2)) prober after)
      (fun _ after => ∃ channels opened, Joined view channels opened prober after) := by
  induction entries with
  | nil => exact fun prober => joined_of_device rfl
  | cons entry entries ih =>
    intro prober
    rw [startInjections, yields_bind]
    refine (yields_startInjection keeps entry.1 entry.2).mono (fun _ between started => ?_)
      (fun _ after opened => ⟨_, _, opened⟩)
    refine (ih between).mono (fun _ after more => started.trans more) (fun _ after stuck => ?_)
    obtain ⟨channels, opened, more⟩ := stuck
    exact ⟨_, _, started.trans more⟩

/-! ## The extraction worker -/

/-- Some slot with the channel asks for the probe point. -/
def Serves (probes : List Probe) (channels : ChannelMap) (channel : Nat) (point : ProbePoint) : Prop :=
  ∃ slot, channels.find? slot = some channel ∧ (probes.getD slot Probe.disabled).point = point

theorem yields_preparePoints (entries : List (Nat × Nat)) :
    ∀ (points : OrderedMap ProbePoint Nat) (prober : Prober δ), (preparePoints entries points).Yields prober
      (fun found after =>
        after = { prober with
          extractionQueues := openQueues (entries.map (·.2)) prober.extractionQueues } ∧
        ∀ point channel, found.find? point = some channel → points.find? point = some channel ∨
          ∃ slot, (slot, channel) ∈ entries ∧ (prober.probes.getD slot Probe.disabled).point = point)
      (fun _ after => ∃ opened, after = { prober with
        extractionQueues := openQueues opened prober.extractionQueues }) := by
  induction entries with
  | nil => exact fun points prober => ⟨rfl, fun point channel found => .inl found⟩
  | cons entry entries ih =>
    obtain ⟨slot, channel⟩ := entry
    intro points prober
    rw [preparePoints, yields_bind, yields_modify, yields_bind, yields_get]
    dsimp only
    split
    · exact ⟨[channel], rfl⟩
    · refine (ih _ _).mono (fun found after rest => ?_) (fun _ after rest => ?_)
      · obtain ⟨rfl, origin⟩ := rest
        -- What no later entry put into the map comes from this entry or was there before it.
        refine ⟨rfl, fun point other isFound => ?_⟩
        rcases origin point other isFound with inserted | ⟨slot', member, own⟩
        · rcases OrderedMap.find?_insert.mp inserted with ⟨rfl, rfl⟩ | ⟨-, before⟩
          · exact .inr ⟨slot, by simp, rfl⟩
          · exact .inl before
        · exact .inr ⟨slot', List.mem_cons_of_mem _ member, own⟩
      · obtain ⟨opened, rfl⟩ := rest
        exact ⟨channel :: opened, rfl⟩

/-- An extraction worker was started: the stream is open, the queues of all channels in use are open, all
queues are empty, and the worker knows the probe points of the session and no others. -/
def Tapped (opened : δ → Prop) (before after : Prober δ) : Prop :=
  ∃ device points queues,
    after = { before with
      device
      extractor := some ⟨true, Router.start points queues⟩
      extractionQueues := queues.map BoundedQueue.cleared } ∧
    opened device ∧ queues = openQueues before.extractionMap.values before.extractionQueues ∧
    ∀ point channel, points.find? point = some channel →
      Serves before.probes before.extractionMap channel point

/-- The extraction worker was started, if there is something to extract. -/
def Prepared (opened : δ → Prop) (before after : Prober δ) : Prop :=
  before.extractionMap.isEmpty = true ∧ after = before ∨
    before.extractionMap.isEmpty = false ∧ Tapped opened before after

/-- On a failure some queues may have been opened. -/
theorem yields_startExtraction {opened failed : δ → Prop}
    (opens : driver.openExtraction.Yields prober.device (fun _ => opened) (fun _ => failed)) :
    (startExtraction driver).Yields prober
      (fun _ after => Prepared opened prober after)
      (fun _ after => ∃ device channels, (device = prober.device ∨ failed device) ∧
        after = { prober with
          device, extractionQueues := openQueues channels prober.extractionQueues }) := by
  unfold startExtraction
  rw [yields_bind, yields_get]
  split
  · rename_i empty
    exact .inl ⟨empty, rfl⟩
  · rename_i inUse
    rw [yields_bind]
    refine (yields_preparePoints _ _ prober).mono (fun points between prepared => ?_)
      (fun cause after stuck => ?_)
    · obtain ⟨rfl, origin⟩ := prepared
      rw [yields_bind, yields_onDevice]
      refine opens.mono (fun _ device isOpen => ?_) (fun cause device isFailed => ?_)
      · rw [yields_modify]
        refine .inr ⟨by simpa using inUse, device, points, _, rfl, isOpen, rfl, fun point channel found => ?_⟩
        rcases origin point channel found with none | ⟨slot, member, own⟩
        · cases none
        · exact ⟨slot, OrderedMap.find?_eq_some_iff.mpr member, own⟩
      · exact ⟨device, _, .inr isFailed, rfl⟩
    · obtain ⟨channels, rfl⟩ := stuck
      exact ⟨prober.device, channels, .inl rfl, rfl⟩

/-! ## All workers -/

/-- What there is to stream, and over how many channels. -/
structure Setup where
  probes : List Probe
  sampleSizes : SampleSizes
  channelMap : Flow → ChannelMap
  channels : Flow → Nat

/-- What a prober has to stream. -/
def setup (prober : Prober δ) : Setup where
  probes := prober.probes
  sampleSizes := prober.sampleSizes
  channelMap := prober.channelMap
  channels flow := (prober.queues flow).length

/-- No worker is there and every queue is closed. -/
structure Halted (prober : Prober δ) : Prop where
  extractor : prober.extractor = none
  injectors : prober.injectors = []
  queues : ∀ flow, ∀ queue ∈ prober.queues flow, queue.isOpen = false

/-- A start of the workers that got no further than this. -/
inductive Stuck (view : δ → ω) (opened failed : δ → Prop) (before after : Prober δ) : Prop where
  | early (device : δ) (channels : List Nat) (device_cases : device = before.device ∨ failed device)
    (shape : after = { before with
      device, extractionQueues := openQueues channels before.extractionQueues })
  | late (between : Prober δ) (channels further : List Nat) (prepared : Prepared opened before between)
    (joined : Joined view channels further between after)

theorem yields_startWorkers {opened failed : δ → Prop} (keeps : driver.InjectionKeeps view)
    (opens : driver.openExtraction.Yields prober.device (fun _ => opened) (fun _ => failed)) :
    (startWorkers driver).Yields prober
      (fun _ after => ∃ between, Prepared opened prober between ∧
        Joined view prober.injectionMap.values prober.injectionMap.values between after)
      (fun _ after => Stuck view opened failed prober after) := by
  unfold startWorkers
  rw [yields_bind]
  refine (yields_startExtraction opens).mono (fun _ between prepared => ?_) (fun _ after stuck => ?_)
  · have same : between.injectionMap = prober.injectionMap := by
      rcases prepared with ⟨-, rfl⟩ | ⟨-, _, _, _, rfl, -⟩ <;> rfl
    rw [yields_bind, yields_get, same]
    refine (yields_startInjections keeps _ between).mono (fun _ after joined => ⟨between, prepared, joined⟩)
      (fun _ after stuck => ?_)
    obtain ⟨channels, further, joined⟩ := stuck
    exact .late between channels further prepared joined
  · obtain ⟨device, channels, device_cases, shape⟩ := stuck
    exact .early device channels device_cases shape

/-- Either every worker is started, or whatever was started is stopped again. -/
theorem yields_startStreaming {opened failed : δ → Prop} (keeps : driver.InjectionKeeps view)
    (opens : driver.openExtraction.Yields prober.device (fun _ => opened) (fun _ => failed)) :
    (startStreaming driver).Yields prober
      (fun _ after => ∃ between, Prepared opened prober between ∧
        Joined view prober.injectionMap.values prober.injectionMap.values between after)
      (fun _ after => ∃ stuck, Stuck view opened failed prober stuck ∧ after = stuck.stopWorkers) := by
  unfold startStreaming
  rw [yields_bind, yields_attempt]
  refine (yields_startWorkers keeps opens).mono (fun _ _ started => started) (fun _ stuck isStuck => ?_)
  exact ⟨stuck, isStuck, rfl⟩

theorem length_openQueues (channels : List Nat) (queues : List BlockQueue) :
    (openQueues channels queues).length = queues.length := by
  simpa using congrArg List.length (items_openQueues channels queues)

theorem length_stopInjectors (injectors : List (Injector δ)) : ∀ queues : List BlockQueue,
    (stopInjectors injectors queues).length = queues.length := by
  induction injectors with
  | nil => exact fun _ => rfl
  | cons injector injectors ih =>
    intro queues
    exact (ih _).trans (by simp)

theorem setup_congr {before after : Prober δ} (probes : after.probes = before.probes)
    (sampleSizes : after.sampleSizes = before.sampleSizes)
    (channelMap : ∀ flow, after.channelMap flow = before.channelMap flow)
    (channels : ∀ flow, (after.queues flow).length = (before.queues flow).length) :
    after.setup = before.setup := by
  simp only [setup, probes, sampleSizes, funext channelMap, channels]

theorem Joined.setup_eq {channels opened : List Nat} {before after : Prober δ}
    (joined : Joined view channels opened before after) : after.setup = before.setup := by
  obtain ⟨device, queues, injectors, rfl, -, gate, -⟩ := joined
  refine setup_congr rfl rfl (fun flow => by cases flow <;> rfl) fun flow => ?_
  cases flow with
  | extraction => rfl
  | injection => exact (length_of_gates gate).trans (length_openQueues _ _)

theorem Prepared.setup_eq {opened : δ → Prop} {before after : Prober δ}
    (prepared : Prepared opened before after) : after.setup = before.setup := by
  rcases prepared with ⟨-, rfl⟩ | ⟨-, device, points, queues, rfl, -, rfl, -⟩
  · rfl
  · refine setup_congr rfl rfl (fun flow => by cases flow <;> rfl) fun flow => ?_
    cases flow with
    | extraction => simp [Prober.queues, length_openQueues]
    | injection => rfl

theorem Stuck.setup_eq {opened failed : δ → Prop} {before after : Prober δ}
    (stuck : Stuck view opened failed before after) : after.setup = before.setup := by
  cases stuck with
  | early device channels device_cases shape =>
    subst shape
    refine setup_congr rfl rfl (fun flow => by cases flow <;> rfl) fun flow => ?_
    cases flow with
    | extraction => exact length_openQueues channels before.extractionQueues
    | injection => rfl
  | late between channels further prepared joined => exact joined.setup_eq.trans prepared.setup_eq

theorem setup_stopWorkers (prober : Prober δ) : prober.stopWorkers.setup = prober.setup := by
  refine setup_congr rfl rfl (fun flow => by cases flow <;> rfl) fun flow => ?_
  cases flow <;> simp [Prober.queues, stopWorkers, length_stopInjectors]

theorem halted_stopWorkers (prober : Prober δ) : prober.stopWorkers.Halted where
  extractor := rfl
  injectors := rfl
  queues flow queue member := by
    cases flow <;> obtain ⟨stopped, -, rfl⟩ := List.mem_map.mp member <;> rfl

theorem Joined.sinksKeep {channels opened : List Nat} {before after : Prober δ}
    (joined : Joined view channels opened before after) (keep : SinksKeep view before) :
    SinksKeep view after := by
  obtain ⟨device, queues, injectors, rfl, -, -, -, sinks⟩ := joined
  intro injector member
  rcases List.mem_append.mp member with early | late
  · exact keep injector early
  · exact sinks injector late

/-- Sinks leave alone what the driver promises of them, however a start ends. -/
theorem yields_startStreaming_sinks (injects : driver.InjectionKeeps view) (keep : SinksKeep view prober) :
    (startStreaming driver).Yields prober (fun _ => SinksKeep view) (fun _ => SinksKeep view) := by
  have opens : driver.openExtraction.Yields prober.device (fun _ _ => True) (fun _ _ => True) :=
    yields_of_forall (fun _ _ => trivial) fun _ _ => trivial
  refine (yields_startStreaming injects opens).mono (fun _ after started => ?_) (fun _ after isStuck => ?_)
  · obtain ⟨between, prepared, joined⟩ := started
    apply joined.sinksKeep
    rcases prepared with ⟨-, rfl⟩ | ⟨-, device, points, queues, rfl, -⟩
    · exact keep
    · exact keep
  · obtain ⟨stuck, -, rfl⟩ := isStuck
    intro injector member
    cases member

/-- What opening streams leaves alone about the device, a start leaves alone. -/
theorem yields_startStreaming_keeps (injects : driver.InjectionKeeps view)
    (extracts : Keeps view driver.openExtraction) (keep : SinksKeep view prober) :
    (startStreaming driver).Yields prober
      (fun _ after => after.setup = prober.setup ∧ view after.device = view prober.device ∧
        SinksKeep view after)
      (fun _ after => after.setup = prober.setup ∧ view after.device = view prober.device ∧
        after.Halted) := by
  refine (yields_startStreaming injects (extracts prober.device)).mono (fun _ after started => ?_)
    (fun _ after isStuck => ?_)
  · obtain ⟨between, prepared, joined⟩ := started
    have prepared_keeps : view between.device = view prober.device ∧ SinksKeep view between := by
      rcases prepared with ⟨-, rfl⟩ | ⟨-, device, points, queues, rfl, kept, -⟩
      · exact ⟨rfl, keep⟩
      · exact ⟨kept, keep⟩
    refine ⟨joined.setup_eq.trans prepared.setup_eq, ?_, joined.sinksKeep prepared_keeps.2⟩
    obtain ⟨device, queues, injectors, rfl, kept, -⟩ := joined
    exact kept.trans prepared_keeps.1
  · obtain ⟨stuck, isStuck, rfl⟩ := isStuck
    refine ⟨(setup_stopWorkers stuck).trans isStuck.setup_eq, ?_, halted_stopWorkers stuck⟩
    change view stuck.device = view prober.device
    cases isStuck with
    | early device channels device_cases shape =>
      subst shape
      rcases device_cases with rfl | kept
      · rfl
      · exact kept
    | late between channels further prepared joined =>
      obtain ⟨device, queues, injectors, rfl, kept, -⟩ := joined
      rcases prepared with ⟨-, rfl⟩ | ⟨-, device', points, queues', rfl, kept', -⟩
      · exact kept
      · exact kept.trans kept'

end Prober

end DspInspector

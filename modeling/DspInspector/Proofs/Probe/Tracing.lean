import DspInspector.Proofs.Probe.Floor
import DspInspector.Proofs.Probe.Runs
import Mathlib.Data.List.Forall2

/-!
# Where blocks come from

Every block in a queue was meant for that channel, and so was every block that a worker took
(`Admission.From`). If a worker was there when the block was accepted, then one is there as long as the
block is in the queue, and the queue has not been closed since. What a worker wrote is, silence apart, what it
took (`Post.Spells`). All this is passed on by every move of the clients and the workers (`traced_after`),
none of which opens or closes a queue or changes who is there (`Undisturbed`).
-/

namespace DspInspector

open DspInspector.Action

variable {δ : Type}

namespace Prober

/-- The slot has the channel among the probes that inject. -/
def Assigned (probes : List Probe) (slot channel : Nat) : Prop :=
  (compact (ActiveSlots.slotsWhere Flow.injection.wants probes)).find? slot = some channel

/-- No two slots have the same channel. -/
theorem Assigned.injective {probes : List Probe} {slot other channel : Nat} (one : Assigned probes slot channel)
    (two : Assigned probes other channel) : slot = other := by
  unfold Assigned at one two
  rw [find?_compact ActiveSlots.pairwise_slotsWhere] at one two
  exact Option.some.inj (one.symm.trans two)

theorem Setup.Sound.assigned {setup : Setup} (sound : setup.Sound) {slot channel : Nat}
    (found : (setup.channelMap .injection).find? slot = some channel) : Assigned setup.probes slot channel := by
  rw [(sound .injection).1] at found
  exact found

end Prober

open Prober (Assigned)

/-! ## Records -/

/-- The block was meant for the channel. If it was accepted while a worker was there, then in the period;
and a worker was there unless the session was being configured, started or stopped. -/
structure Admission.From (target period : Nat) (admission : Admission) : Prop where
  channel : admission.ticket.channel = target
  assigned : Assigned admission.ticket.probes admission.ticket.slot target
  current : admission.attended = true → admission.period = period
  quiet : admission.quiet = true → admission.attended = true

/-- What was written and what is carried over are the blocks that were taken, with silence after each
portion. -/
def Post.Spells (carry : List UInt8) (post : Post) : Prop :=
  ∃ portions : List Portion, post.writes = portions.map Portion.bytes ∧
    portions.flatMap Portion.host ++ carry = post.taken.flatMap (·.ticket.block)

/-- The record of a worker is right. -/
structure Post.Sound (post : Post) : Prop where
  assigned : Assigned post.probes post.slot post.channel
  taken : ∀ admission ∈ post.taken, admission.From post.channel post.period
  spelled : ∃ carry, post.Spells carry

theorem Post.Spells.served {post : Post} {feeder feeder' : Feeder} {queue queue' : BlockQueue}
    {host : List UInt8} {held : List Admission} (spells : post.Spells feeder.carry)
    (drawn : Feeder.Drawn host feeder queue feeder' queue') (items : queue.items = held.map (·.ticket.block))
    (portions : List Portion) (given : portions.flatMap Portion.host = host) :
    (post.served (held.take (held.length - queue'.items.length)) (portions.map Portion.bytes)).Spells
      feeder'.carry := by
  obtain ⟨earlier, writes, spelled⟩ := spells
  refine ⟨earlier ++ portions, ?_, ?_⟩
  · rw [List.map_append, ← writes]
    rfl
  · have count : held.length = queue.items.length := by rw [items, List.length_map]
    have rest : queue'.items = (held.drop (held.length - queue'.items.length)).map (·.ticket.block) := by
      rw [List.map_drop, ← items, count]
      exact List.suffix_iff_eq_drop.mp drawn.suffix
    have stock := drawn.stock
    unfold Feeder.stock at stock
    rw [items, ← List.take_append_drop (held.length - queue'.items.length) held, List.map_append,
      List.flatten_append, ← rest, ← List.append_assoc, ← List.append_assoc] at stock
    have cut := List.append_cancel_right stock
    change _ = (post.taken ++ _).flatMap _
    rw [List.flatMap_append, given, List.flatMap_append, List.append_assoc, cut, ← List.append_assoc, spelled]
    rfl

/-- What a worker takes and writes keeps its record right. -/
theorem Post.Sound.served {post : Post} (sound : post.Sound) {blocks : List Admission}
    {writes : List (List UInt8)} {carry : List UInt8}
    (meant : ∀ admission ∈ blocks, admission.From post.channel post.period)
    (spells : (post.served blocks writes).Spells carry) : (post.served blocks writes).Sound where
  assigned := sound.assigned
  taken admission member := by
    rcases List.mem_append.mp member with earlier | new
    · exact sound.taken admission earlier
    · exact meant admission new
  spelled := ⟨carry, spells⟩

/-- A worker and its record. -/
structure Manned (closings : Nat → Nat) (injector : Injector δ) (post : Post) : Prop where
  channel : post.channel = injector.channel
  unstopped : injector.isStopped = false
  sound : post.Sound
  period : post.period = closings post.channel
  carry : injector.isRunning = true → post.Spells injector.feeder.carry

namespace Floor

/-- A worker is there for every open queue. -/
def Staffed (floor : Floor δ) : Prop :=
  ∀ channel, (floor.prober.injectionQueue channel).isOpen = true → floor.attended channel = true

/-- What is recorded of the queues is right. -/
structure Stocked (floor : Floor δ) : Prop where
  items : ∀ channel, (floor.prober.injectionQueue channel).items = (floor.held channel).map (·.ticket.block)
  held : ∀ channel, ∀ admission ∈ floor.held channel, admission.From channel (floor.closings channel)
  attended : ∀ channel, ∀ admission ∈ floor.held channel, admission.attended = true →
    floor.attended channel = true

/-- All that is recorded is right. -/
structure Traced (floor : Floor δ) : Prop where
  setup : floor.prober.setup.Sound
  waiting : ∀ ticket ∈ floor.waiting, Assigned ticket.probes ticket.slot ticket.channel
  stocked : floor.Stocked
  crew : List.Forall₂ (Manned floor.closings) floor.prober.injectors floor.crew
  starting : ∀ feeder post, floor.starting = some (feeder, post) →
    post.Sound ∧ post.period = floor.closings post.channel ∧ post.Spells feeder.carry
  retired : ∀ post ∈ floor.retired, post.Sound
  staffed : floor.busy = false → floor.Staffed

/-- The same workers are there, the same queues are open, and the same session is set up. -/
structure Undisturbed (before after : Floor δ) : Prop where
  calm : Prober.Calm (fun _ => ()) before.prober after.prober
  closings : after.closings = before.closings
  busy : after.busy = before.busy
  starting : after.starting.map (·.2.channel) = before.starting.map (·.2.channel)

end Floor

/-! ## Queues -/

namespace Prober

variable {prober before after : Prober δ} {channel : Nat} {queue : BlockQueue}

theorem Calm.trans {ω : Type} {view : δ → ω} {between : Prober δ} (first : Calm view before between)
    (second : Calm view between after) : Calm view before after where
  setup := second.setup.trans first.setup
  extractor := second.extractor.trans first.extractor
  injectors := second.injectors.trans first.injectors
  gates flow := (second.gates flow).trans (first.gates flow)
  device := second.device.trans first.device

theorem isOpen_injectionQueue (channel : Nat) (prober : Prober δ) :
    (prober.injectionQueue channel).isOpen = (gates prober.injectionQueues).getD channel false := by
  simp only [injectionQueue, gates, List.getD_eq_getElem?_getD, List.getElem?_map]
  cases prober.injectionQueues[channel]? <;> rfl

theorem Calm.isOpen {ω : Type} {view : δ → ω} (calm : Calm view before after) (channel : Nat) :
    (after.injectionQueue channel).isOpen = (before.injectionQueue channel).isOpen := by
  have same : Prober.gates after.injectionQueues = Prober.gates before.injectionQueues := calm.gates .injection
  rw [isOpen_injectionQueue, isOpen_injectionQueue, same]

/-- A channel without a queue has an empty one. -/
theorem injectionQueue_of_le (outside : prober.injectionQueues.length ≤ channel) :
    prober.injectionQueue channel = .ofBudget 0 := by
  rw [injectionQueue, List.getD_eq_getElem?_getD, List.getElem?_eq_none outside]
  rfl

theorem items_withQueue (fits : queue.items <:+ (prober.injectionQueue channel).items ∨
      channel < prober.injectionQueues.length) (other : Nat) :
    ((prober.withQueue channel queue).injectionQueue other).items =
      if other = channel then queue.items else (prober.injectionQueue other).items := by
  unfold withQueue injectionQueue
  simp only [List.getD_eq_getElem?_getD, List.getElem?_set]
  by_cases here : other = channel
  · subst here
    by_cases inside : other < prober.injectionQueues.length
    · simp [inside]
    · have outside : prober.injectionQueues.length ≤ other := by omega
      have suffix := fits.resolve_right inside
      rw [injectionQueue_of_le outside] at suffix
      simp [inside, List.suffix_nil.mp suffix, BlockQueue.ofBudget]
  · simp [here, Ne.symm here]

theorem calm_withQueue (gate : queue.isOpen = (prober.injectionQueue channel).isOpen) :
    Calm (fun _ => ()) prober (prober.withQueue channel queue) :=
  .of_injection rfl rfl (gates_set gate)

end Prober

theorem map_set_of_eq {α β : Type} {f : α → β} {list : List α} {place : Nat} {before after : α}
    (there : list[place]? = some before) (same : f after = f before) :
    (list.set place after).map f = list.map f := by
  refine List.ext_getElem? fun other => ?_
  by_cases here : place = other
  · subst here
    obtain ⟨inside, isThere⟩ := List.getElem?_eq_some_iff.mp there
    simp [inside, isThere, same]
  · simp [here]

/-- Two lists that correspond still do after a change at one place of both. -/
theorem forall₂_set_modify {α β : Type} {related : α → β → Prop} {list : List α} {others : List β}
    (all : List.Forall₂ related list others) {place : Nat} {before after : α} {change : β → β}
    (there : list[place]? = some before) (one : ∀ other, related before other → related after (change other)) :
    List.Forall₂ related (list.set place after) (others.modify place change) := by
  induction all generalizing place with
  | nil => cases there
  | cons first rest ih =>
    cases place with
    | zero =>
      cases there
      exact .cons (one _ first) rest
    | succ place => exact .cons first (ih there)

namespace Floor

variable {floor before between after : Floor δ}

/-! ## Disturbance -/

theorem Undisturbed.refl : Undisturbed floor floor := ⟨.refl, rfl, rfl, rfl⟩

theorem Undisturbed.trans (first : Undisturbed before between) (second : Undisturbed between after) :
    Undisturbed before after where
  calm := first.calm.trans second.calm
  closings := second.closings.trans first.closings
  busy := second.busy.trans first.busy
  starting := second.starting.trans first.starting

theorem attended_congr (same : after.prober.injectors.map (·.channel) = before.prober.injectors.map (·.channel))
    (channel : Nat) : after.attended channel = before.attended channel := by
  have any (floor : Floor δ) :
      floor.attended channel = (floor.prober.injectors.map (·.channel)).any (· == channel) := by
    rw [List.any_map]
    rfl
  rw [any, any, same]

theorem Undisturbed.attended (undisturbed : Undisturbed before after) (channel : Nat) :
    after.attended channel = before.attended channel :=
  attended_congr undisturbed.calm.channels channel

theorem Undisturbed.channels (undisturbed : Undisturbed before after) :
    after.prober.injectionQueues.length = before.prober.injectionQueues.length :=
  congrFun (congrArg Prober.Setup.channels undisturbed.calm.setup) .injection

theorem Undisturbed.staffed (undisturbed : Undisturbed before after) (staffed : before.Staffed) :
    after.Staffed := by
  intro channel isOpen
  rw [undisturbed.attended]
  rw [undisturbed.calm.isOpen] at isOpen
  exact staffed channel isOpen

/-! ## Taking blocks -/

theorem mem_of_taken {channel left : Nat} {admission : Admission}
    (member : admission ∈ floor.taken channel left) :
    admission ∈ floor.held channel :=
  List.mem_of_mem_take member

theorem mem_of_heldAfter {channel left other : Nat} {admission : Admission}
    (member : admission ∈ floor.heldAfter channel left other) : admission ∈ floor.held other := by
  unfold heldAfter at member
  by_cases here : other = channel
  · subst here
    rw [Function.update_self] at member
    exact List.mem_of_mem_drop member
  · rwa [Function.update_of_ne here] at member

/-- What is recorded of the queues stays right when blocks are taken. -/
theorem Stocked.drawn (stocked : before.Stocked) {channel : Nat} {host : List UInt8} {feeder feeder' : Feeder}
    {queue : BlockQueue}
    (drawn : Feeder.Drawn host feeder (before.prober.injectionQueue channel) feeder' queue)
    (items : ∀ other, (after.prober.injectionQueue other).items =
      if other = channel then queue.items else (before.prober.injectionQueue other).items)
    (held : after.held = before.heldAfter channel queue.items.length)
    (closings : after.closings = before.closings)
    (attended : ∀ other, after.attended other = before.attended other) : after.Stocked where
  items other := by
    rw [items, held, heldAfter]
    by_cases here : other = channel
    · subst here
      have count : (before.held other).length = (before.prober.injectionQueue other).items.length := by
        rw [stocked.items, List.length_map]
      rw [if_pos rfl, Function.update_self, List.map_drop, ← stocked.items, count]
      exact List.suffix_iff_eq_drop.mp drawn.suffix
    · rw [if_neg here, Function.update_of_ne here]
      exact stocked.items other
  held other admission member := by
    rw [held] at member
    rw [closings]
    exact stocked.held other admission (mem_of_heldAfter member)
  attended other admission member there := by
    rw [held] at member
    rw [attended]
    exact stocked.attended other admission (mem_of_heldAfter member) there

end Floor

/-- What a worker does keeps it and its record right. -/
theorem Manned.served {closings : Nat → Nat} {injector injector' : Injector δ} {post : Post} {feeder : Feeder}
    {queue queue' : BlockQueue} {host : List UInt8} {held : List Admission} {portions : List Portion}
    (manned : Manned closings injector post) (channel : injector'.channel = injector.channel)
    (unstopped : injector'.isStopped = injector.isStopped)
    (drawn : injector.isRunning = true → Feeder.Drawn host injector.feeder queue feeder queue')
    (idle : injector.isRunning = false → queue' = queue ∧ host = [])
    (running : injector'.isRunning = true → injector.isRunning = true ∧ injector'.feeder = feeder)
    (items : queue.items = held.map (·.ticket.block)) (given : portions.flatMap Portion.host = host)
    (meant : ∀ admission ∈ held, admission.From injector.channel (closings injector.channel)) :
    Manned closings injector'
      (post.served (held.take (held.length - queue'.items.length)) (portions.map Portion.bytes)) := by
  have mine : ∀ admission ∈ held.take (held.length - queue'.items.length),
      admission.From post.channel post.period := by
    intro admission member
    rw [manned.period, manned.channel]
    exact meant admission (List.mem_of_mem_take member)
  cases isRunning : injector.isRunning with
  | false =>
    obtain ⟨rfl, rfl⟩ := idle isRunning
    obtain ⟨carry, spells⟩ := manned.sound.spelled
    have still : Feeder.Drawn [] { injector.feeder with carry } queue' { injector.feeder with carry } queue' :=
      ⟨List.suffix_refl _, rfl, rfl⟩
    refine ⟨manned.channel.trans channel.symm, unstopped.trans manned.unstopped,
      manned.sound.served mine (spells.served still items portions given), manned.period, fun isRunning' => ?_⟩
    rw [(running isRunning').1] at isRunning
    cases isRunning
  | true =>
    have spells := (manned.carry isRunning).served (drawn isRunning) items portions given
    refine ⟨manned.channel.trans channel.symm, unstopped.trans manned.unstopped,
      manned.sound.served mine spells, manned.period, fun isRunning' => ?_⟩
    rw [(running isRunning').2]
    exact spells

/-! ## Grants -/

@[simp] theorem Feeder.next_zero (feeder : Feeder) (queue : BlockQueue) :
    feeder.next 0 queue = ([], feeder, queue) := by
  simp [next, gather]

/-- A worker that is told about the room in its buffer takes the samples that it writes. -/
theorem Injector.receive_eq (room : Grant) (injector : Injector δ) (queue : BlockQueue) (device : δ) :
    ∃ (injector' : Injector δ) (events : List WorkerEvent),
      injector.receive room queue device =
        (injector', events, (injector.feeder.next (injector.demand room) queue).2.2,
          injector.sink.written (injector.writes room queue) device) ∧
      (injector'.channel = injector.channel ∧ injector'.sink = injector.sink ∧
        injector'.isStopped = injector.isStopped) ∧
      (injector'.isRunning = true → injector.isRunning = true ∧
        injector'.feeder = (injector.feeder.next (injector.demand room) queue).2.1) := by
  unfold receive writes
  by_cases isRunning : injector.isRunning = true
  · rw [if_pos isRunning]
    cases room with
    | failed cause =>
      have none : injector.demand (.failed cause) = 0 := by simp only [demand, isRunning]
      rw [none, Feeder.next_zero]
      exact ⟨{ injector with isRunning := false }, _, rfl, ⟨rfl, rfl, rfl⟩, nofun⟩
    | available bytes =>
      have some : injector.demand (.available bytes) = bytes / injector.feeder.sampleBytes := by
        simp only [demand, isRunning]
      rw [some, fill]
      by_cases room : 0 < bytes / injector.feeder.sampleBytes
      · rw [if_pos room, if_pos room, writeSamples]
        simp only [Sink.written, List.foldl_cons, List.foldl_nil, Action.run]
        cases injector.sink.write (injector.feeder.next (bytes / injector.feeder.sampleBytes) queue).1 device with
        | ok value after => exact ⟨_, _, rfl, ⟨rfl, rfl, rfl⟩, fun _ => ⟨isRunning, rfl⟩⟩
        | error cause after => exact ⟨_, _, rfl, ⟨rfl, rfl, rfl⟩, nofun⟩
      · have none : bytes / injector.feeder.sampleBytes = 0 := by omega
        rw [if_neg room, if_neg room, none, Feeder.next_zero]
        exact ⟨injector, [], rfl, ⟨rfl, rfl, rfl⟩, fun _ => ⟨isRunning, rfl⟩⟩
  · have none : injector.demand room = 0 := by simp only [demand, Bool.not_eq_true _ ▸ isRunning]
    rw [if_neg isRunning, none, Feeder.next_zero]
    exact ⟨injector, [], rfl, ⟨rfl, rfl, rfl⟩, fun isRunning' => absurd isRunning' isRunning⟩

theorem Prober.receiveGrantAt_eq {prober : Prober δ} (room : Grant) {place : Nat} {injector : Injector δ}
    {queue : BlockQueue} (there : prober.injectors[place]? = some injector)
    (isQueue : prober.injectionQueues[injector.channel]? = some queue) :
    ∃ (injector' : Injector δ) (events : List WorkerEvent),
      prober.receiveGrantAt room place =
        { prober.withQueue injector.channel (injector.feeder.next (injector.demand room) queue).2.2 with
          device := injector.sink.written (injector.writes room queue) prober.device
          events, injectors := prober.injectors.set place injector' } ∧
      (injector'.channel = injector.channel ∧ injector'.sink = injector.sink ∧
        injector'.isStopped = injector.isStopped) ∧
      (injector'.isRunning = true → injector.isRunning = true ∧
        injector'.feeder = (injector.feeder.next (injector.demand room) queue).2.1) := by
  obtain ⟨injector', events, received, same, running⟩ := injector.receive_eq room queue prober.device
  refine ⟨injector', prober.events ++ events, ?_, same, running⟩
  rw [receiveGrantAt, there]
  dsimp only
  rw [isQueue]
  dsimp only
  rw [received, same.1]
  rfl

namespace Floor

variable {floor before between after : Floor δ}

/-! ## Moves -/

theorem injectionQueue_of_getElem? {prober : Prober δ} {channel : Nat} {queue : BlockQueue}
    (there : prober.injectionQueues[channel]? = some queue) : prober.injectionQueue channel = queue := by
  rw [Prober.injectionQueue, List.getD_eq_getElem?_getD, there]
  rfl

/-- Nobody can push to a channel that does not exist. -/
theorem lt_of_isOpen {prober : Prober δ} {channel : Nat}
    (isOpen : (prober.injectionQueue channel).isOpen = true) :
    channel < prober.injectionQueues.length := by
  by_contra outside
  rw [Prober.injectionQueue_of_le (Nat.le_of_not_lt outside)] at isOpen
  cases isOpen

/-- What is recorded stays right if nobody is disturbed and the new records are right. -/
theorem traced_of_undisturbed (traced : before.Traced) (undisturbed : Undisturbed before after)
    (waiting : ∀ ticket ∈ after.waiting, Assigned ticket.probes ticket.slot ticket.channel)
    (stocked : after.Stocked) (crew : List.Forall₂ (Manned before.closings) after.prober.injectors after.crew)
    (starting : ∀ feeder post, after.starting = some (feeder, post) →
      post.Sound ∧ post.period = before.closings post.channel ∧ post.Spells feeder.carry)
    (retired : after.retired = before.retired) : after.Traced ∧ Undisturbed before after := by
  refine ⟨⟨?_, waiting, stocked, ?_, ?_, ?_, fun idle => ?_⟩, undisturbed⟩
  · rw [undisturbed.calm.setup]
    exact traced.setup
  · rw [undisturbed.closings]
    exact crew
  · rw [undisturbed.closings]
    exact starting
  · rw [retired]
    exact traced.retired
  · rw [undisturbed.busy] at idle
    exact undisturbed.staffed (traced.staffed idle)

/-- A block gets into an open queue. -/
theorem Stocked.admitted (traced : floor.Traced) {place : Nat} {ticket : Ticket} (member : ticket ∈ floor.waiting)
    (isOpen : (floor.prober.injectionQueue ticket.channel).isOpen = true) :
    Stocked { floor with
      prober := floor.prober.withQueue ticket.channel
        ((floor.prober.injectionQueue ticket.channel).append ticket.block)
      waiting := floor.waiting.eraseIdx place
      held := Function.update floor.held ticket.channel
        (floor.held ticket.channel ++ [floor.admission ticket]) } := by
  have split {other : Nat} {admission : Admission} (member : admission ∈ Function.update floor.held ticket.channel
        (floor.held ticket.channel ++ [floor.admission ticket]) other) :
      admission ∈ floor.held other ∨ other = ticket.channel ∧ admission = floor.admission ticket := by
    by_cases here : other = ticket.channel
    · subst here
      rw [Function.update_self] at member
      exact (List.mem_append.mp member).imp_right fun new => ⟨rfl, List.mem_singleton.mp new⟩
    · rw [Function.update_of_ne here] at member
      exact .inl member
  refine ⟨fun other => ?_, fun other admission member => ?_, fun other admission member accepted => ?_⟩
  · rw [Prober.items_withQueue (.inr (lt_of_isOpen isOpen))]
    dsimp only
    by_cases here : other = ticket.channel
    · rw [if_pos here, here, Function.update_self, List.map_append, ← traced.stocked.items]
      rfl
    · rw [if_neg here, Function.update_of_ne here]
      exact traced.stocked.items other
  · rcases split member with earlier | ⟨rfl, rfl⟩
    · exact traced.stocked.held other admission earlier
    · refine ⟨rfl, traced.waiting ticket ‹_›, fun _ => rfl, fun quiet => ?_⟩
      exact traced.staffed (by simpa [Floor.admission] using quiet) _ isOpen
  · rcases split member with earlier | ⟨rfl, rfl⟩
    · exact traced.stocked.attended other admission earlier accepted
    · exact accepted

theorem traced_push (traced : floor.Traced) (place : Nat) :
    (floor.push place).Traced ∧ Undisturbed floor (floor.push place) := by
  have fewer : ∀ ticket ∈ floor.waiting.eraseIdx place, Assigned ticket.probes ticket.slot ticket.channel :=
    fun ticket member => traced.waiting ticket (List.mem_of_mem_eraseIdx member)
  unfold push
  cases there : floor.waiting[place]? with
  | none => exact ⟨traced, .refl⟩
  | some ticket =>
    dsimp only
    rcases (floor.prober.injectionQueue ticket.channel).push_cases ticket.block with
      pushed | pushed | ⟨isOpen, pushed⟩
    · rw [pushed]
      exact ⟨traced, .refl⟩
    · rw [pushed]
      refine traced_of_undisturbed traced ⟨.refl, rfl, rfl, rfl⟩ fewer ?_ traced.crew traced.starting rfl
      exact ⟨traced.stocked.items, traced.stocked.held, traced.stocked.attended⟩
    · rw [pushed]
      have calm : Prober.Calm (fun _ => ()) floor.prober (floor.prober.withQueue ticket.channel
          ((floor.prober.injectionQueue ticket.channel).append ticket.block)) := Prober.calm_withQueue rfl
      exact traced_of_undisturbed traced ⟨calm, rfl, rfl, rfl⟩ fewer
        (Stocked.admitted traced (List.mem_of_getElem? there) isOpen) traced.crew traced.starting rfl

/-- A worker takes blocks and writes what it takes. -/
theorem traced_served (traced : floor.Traced) {place : Nat} {injector : Injector δ} (injector' : Injector δ)
    {feeder : Feeder}
    {queue : BlockQueue} {host : List UInt8} (portions : List Portion) {device : δ} {events : List WorkerEvent}
    (there : floor.prober.injectors[place]? = some injector)
    (same : injector'.channel = injector.channel ∧ injector'.sink = injector.sink ∧
      injector'.isStopped = injector.isStopped)
    (drawn : Feeder.Drawn host injector.feeder (floor.prober.injectionQueue injector.channel) feeder queue)
    (idle : injector.isRunning = false → queue = floor.prober.injectionQueue injector.channel ∧ host = [])
    (running : injector'.isRunning = true → injector.isRunning = true ∧ injector'.feeder = feeder)
    (given : portions.flatMap Portion.host = host) :
    let after : Floor δ := { floor with
      prober := { floor.prober.withQueue injector.channel queue with
        device, events, injectors := floor.prober.injectors.set place injector' }
      held := floor.heldAfter injector.channel queue.items.length
      crew := floor.crew.modify place (Post.served (floor.taken injector.channel queue.items.length)
        (portions.map Portion.bytes)) }
    after.Traced ∧ Undisturbed floor after := by
  intro after
  have workers := map_set_of_eq (f := fun injector : Injector δ => (injector.channel, injector.sink)) there
    (Prod.ext same.1 same.2.1)
  have calm : Prober.Calm (fun _ => ()) floor.prober after.prober :=
    .of_injection rfl workers (Prober.gates_set drawn.gate)
  have undisturbed : Undisturbed floor after := ⟨calm, rfl, rfl, rfl⟩
  have stocked : after.Stocked := traced.stocked.drawn drawn (Prober.items_withQueue (.inl drawn.suffix)) rfl rfl
    undisturbed.attended
  refine traced_of_undisturbed traced undisturbed traced.waiting stocked ?_ traced.starting rfl
  refine forall₂_set_modify traced.crew there fun post manned => ?_
  exact manned.served same.1 same.2.2 (fun _ => drawn) idle running (traced.stocked.items _) given
    (traced.stocked.held _)

theorem traced_fetch (traced : floor.Traced) (place : Nat) :
    (floor.fetch place).Traced ∧ Undisturbed floor (floor.fetch place) := by
  unfold fetch
  cases there : floor.prober.injectors[place]? with
  | none => exact ⟨traced, .refl⟩
  | some injector =>
    dsimp only
    split
    · rename_i isRunning
      have drawn := Feeder.drawn_fetch injector.feeder (floor.prober.injectionQueue injector.channel)
      refine traced_served traced { injector with feeder := _ } [] there
        ⟨rfl, rfl, rfl⟩ drawn (fun stopped => ?_) (fun _ => ⟨isRunning, rfl⟩) rfl
      rw [stopped] at isRunning
      cases isRunning
    · exact ⟨traced, .refl⟩

theorem traced_prefetch (traced : floor.Traced) :
    floor.prefetch.Traced ∧ Undisturbed floor floor.prefetch := by
  unfold prefetch
  cases there : floor.starting with
  | none => exact ⟨traced, .refl⟩
  | some worker =>
    obtain ⟨feeder, post⟩ := worker
    dsimp only
    obtain ⟨sound, period, spells⟩ := traced.starting feeder post there
    have drawn := Feeder.drawn_fetch feeder (floor.prober.injectionQueue post.channel)
    have calm : Prober.Calm (fun _ => ()) floor.prober
        (floor.prober.withQueue post.channel (feeder.fetch (floor.prober.injectionQueue post.channel)).2) :=
      Prober.calm_withQueue drawn.gate
    refine traced_of_undisturbed traced ⟨calm, rfl, rfl, by rw [there]; rfl⟩ traced.waiting ?_ traced.crew ?_ rfl
    · exact traced.stocked.drawn drawn (Prober.items_withQueue (.inl drawn.suffix)) rfl rfl fun _ => rfl
    · intro feeder' post' isStarting
      cases isStarting
      have spells' := spells.served drawn (traced.stocked.items _) [] rfl
      refine ⟨sound.served (fun admission member => ?_) spells', period, spells'⟩
      rw [period]
      exact traced.stocked.held _ admission (mem_of_taken member)

theorem traced_grant (traced : floor.Traced) (room : Grant) (place : Nat) :
    (floor.grant room place).Traced ∧ Undisturbed floor (floor.grant room place) := by
  unfold grant
  cases there : floor.prober.injectors[place]? with
  | none => exact ⟨traced, .refl⟩
  | some injector =>
    dsimp only
    cases isQueue : floor.prober.injectionQueues[injector.channel]? with
    | none => exact ⟨traced, .refl⟩
    | some queue =>
      dsimp only
      obtain ⟨injector', events, received, same, running⟩ := Prober.receiveGrantAt_eq room there isQueue
      have here := injectionQueue_of_getElem? isQueue
      have drawn := Feeder.drawn_next (injector.demand room) injector.feeder queue
      -- A worker that has ended, or has no room for a sample, neither takes nor writes anything.
      have idle : injector.demand room = 0 →
          (injector.feeder.next (injector.demand room) queue).2.2 = floor.prober.injectionQueue injector.channel ∧
          (injector.feeder.portion (injector.demand room) queue).host = [] := by
        intro none
        rw [none, Feeder.next_zero, Feeder.portion, Nat.zero_mul, here]
        exact ⟨rfl, rfl⟩
      have ended : injector.isRunning = false → injector.demand room = 0 := by
        intro stopped
        simp only [Injector.demand, stopped]
      rw [received, Injector.writes]
      by_cases none : injector.demand room = 0
      · rw [if_neg (by omega)]
        exact traced_served traced injector' [] there same (here ▸ drawn)
          (fun stopped => idle (ended stopped)) running
          (idle none).2.symm
      · rw [if_pos (by omega), ← Feeder.bytes_portion]
        exact traced_served traced injector' [injector.feeder.portion (injector.demand room) queue] there same
          (here ▸ drawn)
          (fun stopped => idle (ended stopped)) running (List.flatMap_singleton ..)

/-- What is recorded of a worker is what its sink is given. -/
theorem writes_grant (room : Grant) {place : Nat} {injector : Injector δ} {queue : BlockQueue} {post : Post}
    (there : floor.prober.injectors[place]? = some injector)
    (isQueue : floor.prober.injectionQueues[injector.channel]? = some queue)
    (isPost : floor.crew[place]? = some post) :
    ∃ post', (floor.grant room place).crew[place]? = some post' ∧
      post'.writes = post.writes ++ injector.writes room queue ∧
      (floor.grant room place).prober.device =
        injector.sink.written (injector.writes room queue) floor.prober.device := by
  obtain ⟨injector', events, received, -, -⟩ := Prober.receiveGrantAt_eq room there isQueue
  unfold grant
  rw [there]
  dsimp only
  rw [isQueue]
  dsimp only
  rw [List.getElem?_modify_eq, isPost, received]
  exact ⟨_, rfl, rfl, rfl⟩

/-- Every move leaves what is recorded right, and disturbs nobody. -/
theorem traced_after (traced : floor.Traced) (move : Move) :
    (floor.after move).Traced ∧ Undisturbed floor (floor.after move) := by
  cases move with
  | push place => exact traced_push traced place
  | fetch place => exact traced_fetch traced place
  | prefetch => exact traced_prefetch traced
  | grant room place => exact traced_grant traced room place

end Floor

end DspInspector

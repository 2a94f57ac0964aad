import DspInspector.Proofs.Probe.Tracing

/-!
# Records kept through a call

While a session is configured, started or stopped, the records of blocks and workers stay right at every
point where the call pauses (`Going`). A start that succeeds and every stop leave a worker for each open
queue (`yields_setActive`): a queue is opened for a worker that is then started, and if one cannot be started
all are stopped. A stop empties the queue of each worker before it is gone, so that the queues hold no block
that was accepted in the presence of a worker when they are closed (`Going.closeQueue`).
-/

namespace DspInspector

open DspInspector.Action
open Prober (Assigned)

variable {δ α : Type}

namespace Floor

variable {floor before after : Floor δ} {driver : ProbeDevice δ}

/-! ## Points of a call -/

/-- A call is under way, and no worker is halfway to being started. -/
structure Going (floor : Floor δ) : Prop where
  traced : floor.Traced
  alone : floor.starting = none
  busy : floor.busy = true

theorem Going.of_undisturbed (going : before.Going) (traced : after.Traced)
    (undisturbed : Undisturbed before after) :
    after.Going where
  traced := traced
  alone := by
    have same := undisturbed.starting
    rw [going.alone] at same
    exact Option.map_eq_none_iff.mp same
  busy := undisturbed.busy.trans going.busy

theorem traced_foldl (moves : List Move) : ∀ {floor : Floor δ}, floor.Traced →
    (moves.foldl Floor.after floor).Traced ∧ Undisturbed floor (moves.foldl Floor.after floor) := by
  induction moves with
  | nil => exact fun traced => ⟨traced, .refl⟩
  | cons move moves ih =>
    intro floor traced
    obtain ⟨moved, undisturbed⟩ := traced_after traced move
    obtain ⟨rest, undisturbed'⟩ := ih moved
    exact ⟨rest, undisturbed.trans undisturbed'⟩

/-- After a pause nobody is disturbed. -/
theorem yields_pause {action : Action ProbeError (Floor δ) α} {done : α → Floor δ → Prop}
    {failed : ProbeError → Floor δ → Prop} (traced : floor.Traced)
    (onward : ∀ after, after.Traced → Undisturbed floor after → action.Yields after done failed) :
    (do pause; action).Yields floor done failed := by
  rw [yields_bind, pause, yields_modify]
  split
  · exact onward floor traced .refl
  · rename_i moves script _
    obtain ⟨moved, undisturbed⟩ := traced_foldl moves traced
    have stocked : Stocked { moves.foldl Floor.after floor with script } :=
      ⟨moved.stocked.items, moved.stocked.held, moved.stocked.attended⟩
    have unscripted :
        Undisturbed (moves.foldl Floor.after floor) { moves.foldl Floor.after floor with script } :=
      ⟨.refl, rfl, rfl, rfl⟩
    obtain ⟨traced', undisturbed'⟩ :=
      traced_of_undisturbed moved unscripted moved.waiting stocked moved.crew moved.starting rfl
    exact onward _ traced' (undisturbed.trans undisturbed')

theorem Going.paused {action : Action ProbeError (Floor δ) α} {done : α → Floor δ → Prop}
    {failed : ProbeError → Floor δ → Prop} (going : floor.Going)
    (onward : ∀ after, after.Going → Undisturbed floor after → action.Yields after done failed) :
    (do pause; action).Yields floor done failed :=
  yields_pause going.traced fun after traced undisturbed =>
    onward after (going.of_undisturbed traced undisturbed) undisturbed

section Probers

variable {prober : Prober δ} (queues : prober.injectionQueues = floor.prober.injectionQueues)
  (injectors : prober.injectors = floor.prober.injectors)

include queues injectors

/-- The prober may change in what has nothing to do with injection. -/
theorem Going.of_prober (going : floor.Going) (setup : prober.setup.Sound) : Going { floor with prober } := by
  have attended (channel : Nat) : Floor.attended channel { floor with prober } = floor.attended channel :=
    attended_congr (congrArg (List.map (·.channel)) injectors) channel
  have queue (channel : Nat) : prober.injectionQueue channel = floor.prober.injectionQueue channel := by
    rw [Prober.injectionQueue, queues]
    rfl
  have stocked : Stocked { floor with prober } := by
    refine ⟨fun channel => ?_, going.traced.stocked.held, fun channel admission member there => ?_⟩
    · exact (congrArg (·.items) (queue channel)).trans (going.traced.stocked.items channel)
    · rw [attended]
      exact going.traced.stocked.attended channel admission member there
  refine ⟨⟨setup, going.traced.waiting, stocked, ?_, going.traced.starting, going.traced.retired, fun idle => ?_⟩,
    going.alone, going.busy⟩
  · rw [injectors]
    exact going.traced.crew
  · exact absurd (going.busy.symm.trans idle) (by decide)

theorem Staffed.of_prober (staffed : floor.Staffed) : Staffed { floor with prober } := by
  intro channel isOpen
  have attended : Floor.attended channel { floor with prober } = floor.attended channel :=
    attended_congr (congrArg (List.map (·.channel)) injectors) channel
  rw [Prober.injectionQueue, queues] at isOpen
  rw [attended]
  exact staffed channel isOpen

end Probers

theorem Going.of_device (going : floor.Going) (device : δ) :
    Going { floor with prober := { floor.prober with device } } ∧
      Undisturbed floor { floor with prober := { floor.prober with device } } :=
  have calm : Prober.Calm (fun _ => ()) floor.prober { floor.prober with device } := .of_device rfl
  ⟨going.of_prober rfl rfl (calm.setup ▸ going.traced.setup), calm, rfl, rfl, rfl⟩

/-! ## Configuration -/

theorem yields_programFrom (flow : Flow) (probes : List Probe) :
    ∀ {floor : Floor δ}, floor.Going → ∀ channel,
    (programFrom driver flow channel probes).Yields floor (fun _ after => after.Going ∧ Undisturbed floor after)
      (fun _ after => after.Going ∧ Undisturbed floor after) := by
  induction probes with
  | nil => exact fun going channel => ⟨going, .refl⟩
  | cons probe probes ih =>
    intro floor going channel
    refine going.paused fun paused going' undisturbed => ?_
    have one : Keeps Prober.fitted (Prober.programFrom driver flow channel [probe]) :=
      (Prober.keeps_fitted_onDevice _).mapError.bind fun _ => keeps_pure ()
    have told (prober : Prober δ) (same : prober.fitted = paused.prober.fitted) :
        Going { paused with prober } ∧ Undisturbed floor { paused with prober } := by
      rw [Prober.eq_of_fitted same]
      obtain ⟨going, undisturbed'⟩ := going'.of_device prober.device
      exact ⟨going, undisturbed.trans undisturbed'⟩
    rw [yields_bind, inside, yields_onPart]
    refine (one paused.prober).mono (fun _ prober same => ?_) (fun _ prober same => told prober same)
    obtain ⟨going, undisturbed⟩ := told prober same
    refine (ih going (channel + 1)).mono (fun _ after reached => ?_) (fun _ after reached => ?_)
    · exact ⟨reached.1, undisturbed.trans reached.2⟩
    · exact ⟨reached.1, undisturbed.trans reached.2⟩

theorem yields_programAll (going : floor.Going) :
    (programAll driver).Yields floor (fun _ after => after.Going ∧ Undisturbed floor after)
      (fun _ after => after.Going ∧ Undisturbed floor after) := by
  have flow (flow : Flow) {floor : Floor δ} (going : floor.Going) :
      (program driver flow).Yields floor (fun _ after => after.Going ∧ Undisturbed floor after)
        (fun _ after => after.Going ∧ Undisturbed floor after) := by
    rw [program, yields_bind, inside, yields_onPart, yields_get]
    exact yields_programFrom flow _ going 0
  rw [programAll, yields_bind]
  refine (flow .extraction going).mono (fun _ between reached => ?_) fun _ _ stuck => stuck
  refine (flow .injection reached.1).mono (fun _ after last => ?_) (fun _ after last => ?_)
  · exact ⟨last.1, reached.2.trans last.2⟩
  · exact ⟨last.1, reached.2.trans last.2⟩

/-- A configuration does not touch the queues. -/
theorem yields_configure (going : floor.Going) (staffed : floor.Staffed) (probes : List Probe)
    (sampleSizes : SampleSizes) :
    (configure driver probes sampleSizes).Yields floor (fun _ after => after.Going ∧ after.Staffed)
      (fun _ after => after.Going ∧ after.Staffed) := by
  unfold configure
  rw [yields_bind, inside, yields_onPart, yields_get, yields_bind, yields_ofExcept]
  cases checked : floor.prober.checkSession probes with
  | error cause => exact ⟨going, staffed⟩
  | ok active =>
    obtain ⟨rfl, fits⟩ := Prober.checkSession_eq_ok checked
    dsimp only
    refine going.paused fun paused going' undisturbed => ?_
    rw [yields_bind, yields_mapError, inside, yields_onPart, Prober.yields_onDevice]
    refine yields_of_forall (fun stage device => ?_) (fun cause device => ?_)
    · obtain ⟨going, undisturbed'⟩ := going'.of_device device
      have staffed := (undisturbed.trans undisturbed').staffed staffed
      have room (flow : Flow) : probes.countP flow.wants ≤ (paused.prober.queues flow).length := by
        have channels : paused.prober.setup.channels flow = floor.prober.setup.channels flow := by
          rw [undisturbed.calm.setup]
        exact Nat.le_trans (fits flow) (Nat.le_of_eq channels.symm)
      have taken : (inside (modify fun prober => { prober with
            probes, sampleSizes
            extractionMap := Prober.compact (ActiveSlots.of probes).extraction
            injectionMap := Prober.compact (ActiveSlots.of probes).injection })).Yields
          { paused with prober := { paused.prober with device } }
          (fun _ after => after.Going ∧ after.Staffed) (fun _ _ => False) := by
        rw [inside, yields_onPart, yields_modify]
        exact ⟨going.of_prober rfl rfl (Prober.sound_reconfigured room), staffed.of_prober rfl rfl⟩
      by_cases isActive : stage = .active
      · rw [if_pos isActive]
        exact ⟨going, staffed⟩
      · rw [if_neg isActive, yields_bind]
        refine taken.mono (fun _ between reached => ?_) fun _ _ no => no.elim
        split
        · refine (yields_programAll reached.1).mono (fun _ after last => ?_) (fun _ after last => ?_)
          · exact ⟨last.1, last.2.staffed reached.2⟩
          · exact ⟨last.1, last.2.staffed reached.2⟩
        · exact reached
    · obtain ⟨going, undisturbed'⟩ := going'.of_device device
      exact ⟨going, (undisturbed.trans undisturbed').staffed staffed⟩

/-! ## Starting -/

/-- A worker that is being started takes the samples that its sink is given, whether that succeeds or not. -/
theorem yields_supply (channel : Nat) (sink : Sink δ) (count : Nat) (feeder : Feeder) (prober : Prober δ) :
    let drawn := feeder.next count (prober.injectionQueue channel)
    let after : Prober δ :=
      { prober.withQueue channel drawn.2.2 with device := sink.written [drawn.1] prober.device }
    (Prober.supply channel sink count feeder).Yields prober (fun given final => given = drawn.2.1 ∧ final = after)
      (fun _ final => final = after) := by
  intro drawn after
  have written : sink.written [drawn.1] prober.device = ((sink.write drawn.1).run prober.device).2 := rfl
  rw [Prober.supply, yields_onPart]
  simp only [Yields, Injector.writeSamples, after, written, Action.run]
  cases sink.write drawn.1 prober.device with
  | ok value device => exact ⟨rfl, rfl⟩
  | error cause device => rfl

theorem attended_join (injector : Injector δ) (post : Post) (floor : Floor δ) (channel : Nat) :
    (join injector post floor).attended channel = (floor.attended channel || injector.channel == channel) := by
  simp [join, attended]

theorem Going.join (going : floor.Going) {injector : Injector δ} {post : Post}
    (manned : Manned floor.closings injector post) : Going (join injector post floor) := by
  have calm : ((Floor.join injector post floor).prober).setup = floor.prober.setup :=
    Prober.setup_congr rfl rfl (fun flow => by cases flow <;> rfl) fun flow => by cases flow <;> rfl
  refine ⟨⟨calm ▸ going.traced.setup, going.traced.waiting, ⟨going.traced.stocked.items, going.traced.stocked.held,
    fun channel admission member there => ?_⟩, ?_, going.traced.starting, going.traced.retired, fun idle => ?_⟩,
    going.alone, going.busy⟩
  · rw [attended_join, going.traced.stocked.attended channel admission member there]
    rfl
  · exact List.rel_append going.traced.crew (.cons manned .nil)
  · exact absurd (going.busy.symm.trans idle) (by decide)

theorem Going.retire (going : floor.Going) {posts : List Post} (sound : ∀ post ∈ posts, post.Sound) :
    Going { floor with retired := floor.retired ++ posts } := by
  refine ⟨⟨going.traced.setup, going.traced.waiting, ⟨going.traced.stocked.items, going.traced.stocked.held,
    going.traced.stocked.attended⟩, going.traced.crew, going.traced.starting, fun post member => ?_,
    going.traced.staffed⟩, going.alone, going.busy⟩
  rcases List.mem_append.mp member with earlier | new
  · exact going.traced.retired post earlier
  · exact sound post new

/-- The record of a worker that has written its first samples is right. -/
theorem spells_enter (traced : floor.Traced) {feeder : Feeder} {post : Post}
    (there : floor.starting = some (feeder, post)) (count : Nat) :
    (floor.enter count feeder post).1.Sound ∧
      (floor.enter count feeder post).1.Spells
        (feeder.next count (floor.prober.injectionQueue post.channel)).2.1.carry := by
  obtain ⟨sound, period, spells⟩ := traced.starting feeder post there
  have drawn := Feeder.drawn_next count feeder (floor.prober.injectionQueue post.channel)
  have spells' := spells.served drawn (traced.stocked.items _)
    [feeder.portion count (floor.prober.injectionQueue post.channel)] (List.flatMap_singleton ..)
  rw [List.map_singleton, Feeder.bytes_portion] at spells'
  refine ⟨sound.served (fun admission member => ?_) spells', spells'⟩
  rw [period]
  exact traced.stocked.held _ admission (mem_of_taken member)

/-- So is what is recorded of all others. -/
theorem going_enter (traced : floor.Traced) (busy : floor.busy = true) (count : Nat)
    (feeder : Feeder) (post : Post)
    (device : δ) :
    Going { (floor.enter count feeder post).2 with
      prober := { floor.prober.withQueue post.channel
        (feeder.next count (floor.prober.injectionQueue post.channel)).2.2 with device } } := by
  have drawn := Feeder.drawn_next count feeder (floor.prober.injectionQueue post.channel)
  have calm : Prober.Calm (fun _ => ()) floor.prober { floor.prober.withQueue post.channel
      (feeder.next count (floor.prober.injectionQueue post.channel)).2.2 with device } :=
    .of_injection rfl rfl (Prober.gates_set drawn.gate)
  have stocked : Stocked { (floor.enter count feeder post).2 with
      prober := { floor.prober.withQueue post.channel
        (feeder.next count (floor.prober.injectionQueue post.channel)).2.2 with device } } :=
    traced.stocked.drawn drawn (Prober.items_withQueue (.inl drawn.suffix)) rfl rfl fun _ => rfl
  refine ⟨⟨calm.setup ▸ traced.setup, traced.waiting, stocked, traced.crew, nofun, traced.retired, fun idle => ?_⟩,
    rfl, busy⟩
  exact absurd (busy.symm.trans idle) (by decide)

/-- The worker that is being started joins the others or is gone. -/
theorem yields_prefill_going (traced : floor.Traced) (busy : floor.busy = true) {feeder : Feeder} {post : Post}
    (there : floor.starting = some (feeder, post)) (sink : Sink δ) :
    (prefill sink).Yields floor
      (fun _ after => after.Going ∧ after.prober.setup = floor.prober.setup ∧
        (∀ channel, (after.prober.injectionQueue channel).isOpen =
          (floor.prober.injectionQueue channel).isOpen) ∧
        ∀ channel, after.attended channel = (floor.attended channel || post.channel == channel))
      (fun _ after => after.Going) := by
  obtain ⟨sound, spells⟩ := spells_enter traced there (sink.size / feeder.sampleBytes)
  have going := going_enter traced busy (sink.size / feeder.sampleBytes) feeder post
  have drawn := Feeder.drawn_next (sink.size / feeder.sampleBytes) feeder
    (floor.prober.injectionQueue post.channel)
  obtain ⟨-, period, -⟩ := traced.starting feeder post there
  rw [yields_prefill there]
  refine (yields_supply post.channel sink _ feeder floor.prober).mono (fun feeder' prober supplied => ?_)
    (fun cause prober supplied => ?_)
  · obtain ⟨rfl, rfl⟩ := supplied
    have calm (device : δ) : Prober.Calm (fun _ => ()) floor.prober { floor.prober.withQueue post.channel
        (feeder.next (sink.size / feeder.sampleBytes)
          (floor.prober.injectionQueue post.channel)).2.2 with device } :=
      .of_injection rfl rfl (Prober.gates_set drawn.gate)
    refine ⟨(going _).join ⟨rfl, rfl, sound, period, fun _ => spells⟩, ?_, ?_, ?_⟩
    · refine Eq.trans ?_ (calm floor.prober.device).setup
      exact Prober.setup_congr rfl rfl (fun flow => by cases flow <;> rfl) fun flow => by cases flow <;> rfl
    · exact fun channel => (calm floor.prober.device).isOpen channel
    · exact fun channel => attended_join _ _ _ channel
  · subst supplied
    exact (going _).retire fun post member => List.mem_singleton.mp member ▸ sound

theorem injectionQueue_modify (prober : Prober δ) (channel : Nat) (change : BlockQueue → BlockQueue)
    (other : Nat) :
    Prober.injectionQueue other { prober with injectionQueues := prober.injectionQueues.modify channel change } =
      if other = channel ∧ channel < prober.injectionQueues.length then change (prober.injectionQueue other)
      else prober.injectionQueue other := by
  simp only [Prober.injectionQueue, List.getD_eq_getElem?_getD, List.getElem?_modify]
  by_cases here : other = channel
  · subst here
    by_cases inside : other < prober.injectionQueues.length
    · simp [inside]
    · simp [inside]
  · simp [here, Ne.symm here]

theorem setup_modify (prober : Prober δ) (channel : Nat) (change : BlockQueue → BlockQueue) :
    Prober.setup { prober with injectionQueues := prober.injectionQueues.modify channel change } =
      prober.setup := by
  refine Prober.setup_congr rfl rfl (fun flow => by cases flow <;> rfl) fun flow => ?_
  cases flow with
  | extraction => rfl
  | injection => exact List.length_modify _ _ _

/-- A queue may be opened or closed as long as it keeps its blocks. -/
theorem Going.modify (going : floor.Going) (channel : Nat) (change : BlockQueue → BlockQueue)
    (keeps : ∀ queue, (change queue).items = queue.items) :
    Going { floor with prober := { floor.prober with
      injectionQueues := floor.prober.injectionQueues.modify channel change } } := by
  refine ⟨⟨setup_modify floor.prober channel change ▸ going.traced.setup, going.traced.waiting,
    ⟨fun other => ?_, going.traced.stocked.held, going.traced.stocked.attended⟩, going.traced.crew,
    going.traced.starting, going.traced.retired, fun idle => ?_⟩, going.alone, going.busy⟩
  · rw [injectionQueue_modify]
    split
    · exact (keeps _).trans (going.traced.stocked.items other)
    · exact going.traced.stocked.items other
  · exact absurd (going.busy.symm.trans idle) (by decide)

theorem Going.enrol (going : floor.Going) {slot channel : Nat}
    (assigned : Assigned floor.prober.probes slot channel)
    (sampleBytes : Nat) : (enrol slot channel sampleBytes floor).Traced := by
  refine ⟨going.traced.setup, going.traced.waiting, ⟨going.traced.stocked.items, going.traced.stocked.held,
    going.traced.stocked.attended⟩, going.traced.crew, fun feeder post there => ?_, going.traced.retired,
    going.traced.staffed⟩
  cases there
  have nothing : Post.Spells [] ⟨slot, channel, floor.prober.probes, floor.closings channel, [], []⟩ :=
    ⟨[], rfl, rfl⟩
  exact ⟨⟨assigned, nofun, [], nothing⟩, rfl, nothing⟩

/-- A worker is there for every open queue afterwards. -/
theorem yields_startInjection (going : floor.Going) (staffed : floor.Staffed) {slot channel : Nat}
    (assigned : Assigned floor.prober.probes slot channel) :
    (startInjection driver slot channel).Yields floor
      (fun _ after => after.Going ∧ after.Staffed ∧ after.prober.setup = floor.prober.setup)
      (fun _ after => after.Going) := by
  unfold startInjection
  refine going.paused fun first going undisturbed => ?_
  have staffed := undisturbed.staffed staffed
  rw [yields_bind, inside, yields_onPart, yields_modify, yields_bind, inside, yields_onPart, yields_get]
  have opened := going.modify channel BoundedQueue.opened fun _ => rfl
  have kept := (setup_modify first.prober channel BoundedQueue.opened).trans undisturbed.calm.setup
  split
  · exact opened
  · exact opened
  · rename_i sampleBytes _ _
    refine opened.paused fun second going second_undisturbed => ?_
    rw [yields_bind, inside, yields_onPart, Prober.yields_onDevice]
    refine yields_of_forall (fun sink device => ?_) fun cause device => (going.of_device device).1
    obtain ⟨going, undisturbed⟩ := going.of_device device
    have undisturbed := second_undisturbed.trans undisturbed
    have kept := undisturbed.calm.setup.trans kept
    rw [yields_bind, yields_modify]
    have assigned : Assigned second.prober.probes slot channel := by
      rw [show second.prober.probes = floor.prober.probes from congrArg Prober.Setup.probes kept]
      exact assigned
    refine yields_pause (going.enrol assigned sampleBytes) fun third traced third_undisturbed => ?_
    obtain ⟨feeder, post, there, same⟩ : ∃ feeder post, third.starting = some (feeder, post) ∧
        post.channel = channel := by
      have starting := third_undisturbed.starting
      cases there : third.starting with
      | none =>
        rw [there] at starting
        cases starting
      | some worker =>
        rw [there] at starting
        exact ⟨worker.1, worker.2, rfl, Option.some.inj starting⟩
    refine (yields_prefill_going traced (third_undisturbed.busy.trans going.busy) there sink).mono
      (fun _ after joined => ?_) fun _ _ gone => gone
    obtain ⟨going, setup, isOpen, attended⟩ := joined
    refine ⟨going, fun other isOpen' => ?_, setup.trans (third_undisturbed.calm.setup.trans kept)⟩
    rw [attended, same]
    by_cases here : other = channel
    · rw [here, beq_self_eq_true, Bool.or_true]
    · have before : first.attended other = true := by
        refine staffed other ?_
        have chain := (isOpen other).symm.trans isOpen'
        rw [third_undisturbed.calm.isOpen] at chain
        have chain := (undisturbed.calm.isOpen other).symm.trans chain
        rwa [injectionQueue_modify, if_neg fun both => here both.1] at chain
      rw [third_undisturbed.attended]
      have chain : second.attended other = first.attended other := second_undisturbed.attended other
      change (second.attended other || _) = true
      rw [chain, before, Bool.true_or]

theorem yields_startInjections (entries : List (Nat × Nat)) :
    ∀ {floor : Floor δ}, floor.Going → floor.Staffed →
    (∀ slot channel, (slot, channel) ∈ entries → Assigned floor.prober.probes slot channel) →
    (startInjections driver entries).Yields floor (fun _ after => after.Going ∧ after.Staffed)
      (fun _ after => after.Going) := by
  induction entries with
  | nil => exact fun going staffed _ => ⟨going, staffed⟩
  | cons entry entries ih =>
    intro floor going staffed assigned
    obtain ⟨slot, channel⟩ := entry
    rw [startInjections, yields_bind]
    refine (yields_startInjection going staffed (assigned slot channel List.mem_cons_self)).mono
      (fun _ between started => ?_) fun _ _ stuck => stuck
    obtain ⟨going, staffed, kept⟩ := started
    refine ih going staffed fun slot channel member => ?_
    rw [show between.prober.probes = floor.prober.probes from congrArg Prober.Setup.probes kept]
    exact assigned slot channel (List.mem_cons_of_mem _ member)

/-- Starting the extraction worker has nothing to do with injection. -/
theorem Going.startExtraction (going : floor.Going) (staffed : floor.Staffed) :
    (inside (Prober.startExtraction driver)).Yields floor (fun _ after => after.Going ∧ after.Staffed)
      (fun _ after => after.Going) := by
  have opens : driver.openExtraction.Yields floor.prober.device (fun _ _ => True) (fun _ _ => True) :=
    yields_of_forall (fun _ _ => trivial) fun _ _ => trivial
  rw [inside, yields_onPart]
  refine (Prober.yields_startExtraction opens).mono (fun _ prober prepared => ?_) (fun _ prober stuck => ?_)
  · have kept := prepared.setup_eq
    rcases prepared with ⟨-, rfl⟩ | ⟨-, device, points, queues, rfl, -, -, -⟩
    · exact ⟨going, staffed⟩
    · exact ⟨going.of_prober rfl rfl (kept ▸ going.traced.setup), staffed.of_prober rfl rfl⟩
  · obtain ⟨device, channels, -, rfl⟩ := stuck
    refine going.of_prober rfl rfl ?_
    have kept := Prober.Stuck.setup_eq (.early device channels (.inr trivial) rfl :
      Prober.Stuck (fun _ => ()) (fun _ => True) (fun _ => True) floor.prober _)
    rw [kept]
    exact going.traced.setup

theorem yields_startWorkers (going : floor.Going) (staffed : floor.Staffed) :
    (startWorkers driver).Yields floor (fun _ after => after.Going ∧ after.Staffed)
      (fun _ after => after.Going) := by
  unfold startWorkers
  refine going.paused fun first going undisturbed => ?_
  rw [yields_bind]
  refine (going.startExtraction (undisturbed.staffed staffed)).mono
    (fun _ second started => ?_) fun _ _ stuck => stuck
  obtain ⟨going, staffed⟩ := started
  rw [yields_bind, inside, yields_onPart, yields_get]
  refine yields_startInjections _ going staffed fun slot channel member => ?_
  exact Prober.Setup.Sound.assigned going.traced.setup (OrderedMap.find?_eq_some_iff.mpr member)

/-! ## Stopping -/

section Halting

variable {prober : Prober δ} {injector : Injector δ} {injectors : List (Injector δ)}
  (there : prober.injectors = injector :: injectors)

include there

theorem haltFirst_eq : prober.haltFirst = { prober with
    injectors
    injectionQueues := prober.injectionQueues.modify injector.channel fun queue => (injector.stop queue).2 } := by
  rw [Prober.haltFirst, there]

/-- A worker that is stopped leaves an empty queue. -/
theorem items_haltFirst (unstopped : injector.isStopped = false) (other : Nat) :
    (prober.haltFirst.injectionQueue other).items =
      if other = injector.channel then [] else (prober.injectionQueue other).items := by
  have modified := injectionQueue_modify prober injector.channel (fun queue => (injector.stop queue).2) other
  rw [haltFirst_eq there]
  refine (congrArg (·.items) modified).trans ?_
  by_cases here : other = injector.channel
  · rw [if_pos here, Injector.stop, unstopped]
    split
    · rfl
    · rename_i outside
      rw [Prober.injectionQueue_of_le (Nat.le_of_not_lt fun inside => outside ⟨here, here ▸ inside⟩)]
      rfl
  · rw [if_neg here, if_neg fun both => here both.1]

end Halting

theorem Going.haltFirst (going : floor.Going) :
    floor.haltFirst.Going ∧ floor.haltFirst.prober.injectors.length = floor.prober.injectors.length - 1 ∧
      floor.haltFirst.prober.injectionQueues.length = floor.prober.injectionQueues.length := by
  unfold Floor.haltFirst
  cases there : floor.prober.injectors with
  | nil => exact ⟨going, by rw [there]; rfl, rfl⟩
  | cons injector injectors =>
    have crew := going.traced.crew
    rw [there] at crew
    obtain ⟨post, posts, manned, rest, isCrew⟩ := List.forall₂_cons_left_iff.mp crew
    have remaining : floor.prober.haltFirst.injectors = injectors := by rw [haltFirst_eq there]
    have others {other : Nat} {admission : Admission}
        (member : admission ∈ Function.update floor.held injector.channel [] other) :
        other ≠ injector.channel ∧ admission ∈ floor.held other := by
      by_cases here : other = injector.channel
      · rw [here, Function.update_self] at member
        cases member
      · rw [Function.update_of_ne here] at member
        exact ⟨here, member⟩
    refine ⟨⟨⟨?_, going.traced.waiting, ⟨fun other => ?_, fun other admission member => ?_,
      fun other admission member accepted => ?_⟩, ?_, going.traced.starting, fun gone member => ?_, fun idle => ?_⟩,
      going.alone, going.busy⟩, ?_, ?_⟩
    · have kept := setup_modify floor.prober injector.channel fun queue => (injector.stop queue).2
      rw [haltFirst_eq there]
      exact kept ▸ going.traced.setup
    · rw [items_haltFirst there manned.unstopped]
      dsimp only
      by_cases here : other = injector.channel
      · rw [if_pos here, here, Function.update_self]
        rfl
      · rw [if_neg here, Function.update_of_ne here]
        exact going.traced.stocked.items other
    · exact going.traced.stocked.held other admission (others member).2
    · have before := going.traced.stocked.attended other admission (others member).2 accepted
      rw [Floor.attended, there, List.any_cons, beq_eq_false_iff_ne.mpr (Ne.symm (others member).1)] at before
      rw [Floor.attended, remaining]
      exact before
    · rw [remaining, isCrew]
      exact rest
    · rw [isCrew] at member
      rcases List.mem_append.mp member with earlier | new
      · exact going.traced.retired gone earlier
      · exact List.mem_singleton.mp new ▸ manned.sound
    · exact absurd (going.busy.symm.trans idle) (by decide)
    · rw [remaining]
      rfl
    · rw [haltFirst_eq there]
      exact List.length_modify _ _ _

theorem yields_haltMany (count : Nat) :
    ∀ {floor : Floor δ}, floor.Going → floor.prober.injectors.length = count →
    (haltMany count).Yields floor
      (fun _ after => after.Going ∧ after.prober.injectors = [] ∧
        after.prober.injectionQueues.length = floor.prober.injectionQueues.length)
      (fun _ _ => False) := by
  induction count with
  | zero => exact fun going none => ⟨going, List.length_eq_zero_iff.mp none, rfl⟩
  | succ count ih =>
    intro floor going many
    refine going.paused fun paused going undisturbed => ?_
    rw [yields_bind, yields_modify]
    obtain ⟨going, fewer, channels⟩ := going.haltFirst
    have same := congrArg List.length undisturbed.calm.channels
    rw [List.length_map, List.length_map] at same
    refine (ih going (by omega)).mono (fun _ after halted => ?_) fun _ _ no => no
    exact ⟨halted.1, halted.2.1, halted.2.2.trans (channels.trans undisturbed.channels)⟩

/-- Where no worker is, a queue may be closed. -/
theorem Going.closeQueue (going : floor.Going) (none : floor.prober.injectors = []) (channel : Nat) :
    (floor.closeQueue channel).Going := by
  obtain ⟨traced, alone, busy⟩ := going.modify channel BoundedQueue.closed fun _ => rfl
  have nobody (other : Nat) : floor.attended other = false := by rw [Floor.attended, none, List.any_nil]
  -- No block was accepted in the presence of a worker, so the new period contradicts no record.
  refine ⟨⟨traced.setup, traced.waiting, ⟨traced.stocked.items, fun other admission member => ?_,
    traced.stocked.attended⟩, ?_, fun feeder post there => ?_, traced.retired, fun idle => ?_⟩, alone, busy⟩
  · obtain ⟨target, assigned, -, quiet⟩ := going.traced.stocked.held other admission member
    refine ⟨target, assigned, fun accepted => ?_, quiet⟩
    have there := going.traced.stocked.attended other admission member accepted
    rw [nobody] at there
    cases there
  · have crew := going.traced.crew
    rw [none, List.forall₂_nil_left_iff] at crew
    change List.Forall₂ _ floor.prober.injectors floor.crew
    rw [none, crew]
    exact .nil
  · rw [show (floor.closeQueue channel).starting = Option.none from alone] at there
    cases there
  · exact absurd (busy.symm.trans idle) (by decide)

theorem yields_closeBelow (count : Nat) {floor : Floor δ} (going : floor.Going)
    (none : floor.prober.injectors = []) :
    (closeBelow count).Yields floor
      (fun _ after => after.Going ∧ after.prober.injectors = [] ∧
        after.prober.injectionQueues.length = floor.prober.injectionQueues.length ∧
        ∀ channel, channel < count → (after.prober.injectionQueue channel).isOpen = false)
      (fun _ _ => False) := by
  induction count with
  | zero => exact ⟨going, none, rfl, fun channel below => absurd below (Nat.not_lt_zero channel)⟩
  | succ count ih =>
    rw [closeBelow, yields_bind]
    refine ih.mono (fun _ between reached => ?_) fun _ _ no => no
    obtain ⟨going, none, channels, closed⟩ := reached
    refine going.paused fun paused going undisturbed => ?_
    have none : paused.prober.injectors = [] := by
      have same := undisturbed.calm.channels
      rw [none] at same
      exact List.map_eq_nil_iff.mp same
    rw [yields_modify]
    refine ⟨going.closeQueue none count, none, ?_, fun channel below => ?_⟩
    · exact (List.length_modify _ _ _).trans (undisturbed.channels.trans channels)
    have modified := injectionQueue_modify paused.prober count BoundedQueue.closed channel
    refine (congrArg (·.isOpen) modified).trans ?_
    split
    · rfl
    · rename_i other
      rw [undisturbed.calm.isOpen]
      by_cases last : channel = count
      · have outside : paused.prober.injectionQueues.length ≤ channel :=
          last ▸ Nat.le_of_not_lt fun inside => other ⟨last, inside⟩
        rw [← undisturbed.calm.isOpen, Prober.injectionQueue_of_le outside]
        rfl
      · exact closed channel (by omega)

/-- After a stop no worker is there and no queue is open. -/
theorem yields_stop (going : floor.Going) :
    stop.Yields floor (fun _ after => after.Going ∧ after.Staffed) (fun _ _ => False) := by
  unfold stop
  rw [yields_bind, inside, yields_onPart, yields_modify, yields_bind, inside, yields_onPart, yields_get,
    yields_bind]
  have quiet : Prober.setup { floor.prober with
      extractor := none
      extractionQueues := floor.prober.extractionQueues.map BoundedQueue.closed } = floor.prober.setup := by
    refine Prober.setup_congr rfl rfl (fun flow => by cases flow <;> rfl) fun flow => ?_
    cases flow with
    | extraction => exact List.length_map _
    | injection => rfl
  have resting : Going { floor with prober := { floor.prober with
      extractor := none
      extractionQueues := floor.prober.extractionQueues.map BoundedQueue.closed } } :=
    going.of_prober rfl rfl (quiet ▸ going.traced.setup)
  refine (yields_haltMany _ resting rfl).mono (fun _ halted reached => ?_) fun _ _ no => no
  obtain ⟨going, none, channels⟩ := reached
  refine (yields_closeBelow _ going none).mono (fun _ after last => ?_) fun _ _ no => no
  obtain ⟨going, -, channels', closed⟩ := last
  refine ⟨going, fun channel isOpen => ?_⟩
  have inside := lt_of_isOpen isOpen
  rw [channels', channels] at inside
  rw [closed channel inside] at isOpen
  cases isOpen

/-! ## Starts and stops -/

/-- Either a worker is there for every open queue, or everything is stopped again. -/
theorem yields_startStreaming (going : floor.Going) (staffed : floor.Staffed) :
    (startStreaming driver).Yields floor (fun _ after => after.Going ∧ after.Staffed)
      (fun _ after => after.Going ∧ after.Staffed) := by
  rw [startStreaming, yields_bind, yields_attempt]
  refine (yields_startWorkers going staffed).mono (fun _ _ started => started) (fun cause stuck going => ?_)
  dsimp only
  rw [yields_bind]
  exact (yields_stop going).mono (fun _ _ stopped => stopped) fun _ _ no => no.elim

theorem yields_move (going : floor.Going) (staffed : floor.Staffed) (source target : Stage) :
    (move driver source target).Yields floor (fun _ after => after.Going ∧ after.Staffed)
      (fun _ after => after.Going ∧ after.Staffed) := by
  have onward {between : Floor δ} (going : between.Going) (staffed : between.Staffed) :
      (do
        pause
        inside (Prober.onDevice (driver.move source target))
        if source = .idle ∧ target = .owned then programAll driver : Action ProbeError (Floor δ) Unit).Yields between
        (fun _ after => after.Going ∧ after.Staffed) (fun _ after => after.Going ∧ after.Staffed) := by
    refine going.paused fun paused going undisturbed => ?_
    have staffed := undisturbed.staffed staffed
    rw [yields_bind, inside, yields_onPart, Prober.yields_onDevice]
    refine yields_of_forall (fun _ device => ?_) fun _ device => ?_
    · obtain ⟨going, undisturbed⟩ := going.of_device device
      split
      · refine (yields_programAll going).mono (fun _ after last => ?_) (fun _ after last => ?_)
        · exact ⟨last.1, (undisturbed.trans last.2).staffed staffed⟩
        · exact ⟨last.1, (undisturbed.trans last.2).staffed staffed⟩
      · exact ⟨going, undisturbed.staffed staffed⟩
    · obtain ⟨going, undisturbed⟩ := going.of_device device
      exact ⟨going, undisturbed.staffed staffed⟩
  unfold move
  by_cases isActive : target = .active
  · rw [if_pos isActive, yields_bind]
    exact (yields_startStreaming going staffed).mono (fun _ _ started => onward started.1 started.2)
      fun _ _ stuck => stuck
  · rw [if_neg isActive, yields_bind]
    exact (yields_stop going).mono (fun _ _ stopped => onward stopped.1 stopped.2) fun _ _ no => no.elim

theorem yields_setActive (going : floor.Going) (staffed : floor.Staffed) (active : Bool) :
    (setActive driver active).Yields floor (fun _ after => after.Going ∧ after.Staffed)
      (fun _ after => after.Going ∧ after.Staffed) := by
  refine Staged.yields_setActive_of_preserved ?_ ?_ active (⟨going, staffed⟩ : floor.Going ∧ floor.Staffed)
  · intro floor orderly
    refine orderly.1.paused fun paused going undisturbed => ?_
    rw [inside, yields_onPart, Prober.yields_onDevice]
    have read (device : δ) : Going { paused with prober := { paused.prober with device } } ∧
        Staffed { paused with prober := { paused.prober with device } } := by
      obtain ⟨going, undisturbed'⟩ := going.of_device device
      exact ⟨going, (undisturbed.trans undisturbed').staffed orderly.2⟩
    exact yields_of_forall (fun _ => read) fun _ => read
  · exact fun source target floor orderly => yields_move orderly.1 orderly.2 source target

end Floor

end DspInspector

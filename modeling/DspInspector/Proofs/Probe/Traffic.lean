import DspInspector.Proofs.Probe.Deliveries

/-!
# What traffic leaves alone

While a session runs, the workers are served by their streams and clients take and give blocks. None of
this changes what there is to stream, which workers there are, or which queues are open (`Calm`).
-/

namespace DspInspector

open DspInspector.Action

variable {δ ω ω' : Type}

namespace BoundedQueue

variable {α : Type}

theorem mem_tryPop {queue : BoundedQueue α} {item : α} (member : item ∈ queue.tryPop.2.items) :
    item ∈ queue.items := by
  unfold tryPop at member
  split at member
  · exact member
  · rename_i first rest items
    rw [items]
    exact List.mem_cons_of_mem _ member

theorem mem_of_tryPop {queue : BoundedQueue α} {item : α} (taken : queue.tryPop.1 = some item) :
    item ∈ queue.items := by
  unfold tryPop at taken
  split at taken
  · cases taken
  · rename_i first rest items
    cases taken
    rw [items]
    exact List.mem_cons_self

theorem isOpen_pop (queue : BoundedQueue α) : queue.pop.2.isOpen = queue.isOpen := by
  unfold pop
  split
  · rfl
  · exact queue.isOpen_tryPop

theorem mem_pop {queue : BoundedQueue α} {item : α} (member : item ∈ queue.pop.2.items) :
    item ∈ queue.items := by
  unfold pop at member
  split at member
  · exact member
  · exact mem_tryPop member

/-- What is taken was queued. -/
theorem mem_of_pop {queue : BoundedQueue α} {item : α} (taken : queue.pop.1 = .finished (some item)) :
    item ∈ queue.items := by
  unfold pop at taken
  split at taken
  · cases taken
  · exact mem_of_tryPop (Turn.finished.inj taken)

theorem isOpen_push (queue : BoundedQueue α) (item : α) : (queue.push item).2.isOpen = queue.isOpen := by
  unfold push
  repeat' split
  all_goals rfl

end BoundedQueue

/-- A grant neither moves a worker to another channel or sink nor opens or closes its queue. -/
theorem Injector.receive_keeps {view : δ → ω} {injector : Injector δ}
    (keeps : ∀ bytes, Keeps view (injector.sink.write bytes)) (grant : Grant) (queue : BlockQueue)
    (device : δ) :
    let after := injector.receive grant queue device
    after.1.channel = injector.channel ∧ after.1.sink = injector.sink ∧
      after.2.2.1.isOpen = queue.isOpen ∧ view after.2.2.2 = view device := by
  have filled : (injector.fill grant).Yields (queue, device)
      (fun _ after => after.1.isOpen = queue.isOpen ∧ view after.2 = view device)
      (fun _ after => after.1.isOpen = queue.isOpen ∧ view after.2 = view device) := by
    unfold fill
    cases grant with
    | failed cause => exact ⟨rfl, rfl⟩
    | available bytes =>
      dsimp only
      split
      · exact yields_writeSamples keeps _ _ _ _
      · exact ⟨rfl, rfl⟩
  unfold receive
  split
  · cases ran : injector.fill grant (queue, device) with
    | ok feeder after => exact ⟨rfl, rfl, filled.of_ok ran⟩
    | error cause after => exact ⟨rfl, rfl, filled.of_error ran⟩
  · exact ⟨rfl, rfl, rfl, rfl⟩

namespace Prober

variable {prober : Prober δ} {view : δ → ω}

theorem queueOf_eq_ok {flow : Flow} {slot channel : Nat} {queue : BlockQueue}
    (found : prober.queueOf flow slot = .ok (channel, queue)) :
    (prober.channelMap flow).find? slot = some channel ∧ (prober.queues flow)[channel]? = some queue := by
  unfold queueOf channelOf at found
  cases isChannel : (prober.channelMap flow).find? slot with
  | none =>
    rw [isChannel] at found
    cases found
  | some channel' =>
    simp only [isChannel, bind, Except.bind] at found
    cases isQueue : (prober.queues flow)[channel']? with
    | none =>
      rw [isQueue] at found
      cases found
    | some queue' =>
      rw [isQueue] at found
      cases found
      exact ⟨rfl, isQueue⟩

/-- A block is taken from the queue of the channel of the slot. -/
theorem yields_dequeue {slot : Nat} {done : Turn (Option (List UInt8)) → Prober δ → Prop}
    {failed : ProbeError → Prober δ → Prop} :
    (dequeue slot).Yields prober done failed ↔
      match prober.queueOf .extraction slot with
      | .ok (channel, queue) => done queue.pop.1
          { prober with extractionQueues := prober.extractionQueues.set channel queue.pop.2 }
      | .error cause => failed cause prober := by
  unfold dequeue
  rw [yields_bind, yields_get, yields_bind, yields_ofExcept]
  cases prober.queueOf .extraction slot <;> exact Iff.rfl

/-- A block is put into the queue of the channel of the slot. -/
theorem yields_enqueue {slot : Nat} {block : List UInt8} {done : Turn Bool → Prober δ → Prop}
    {failed : ProbeError → Prober δ → Prop} :
    (enqueue slot block).Yields prober done failed ↔
      match prober.queueOf .injection slot with
      | .ok (channel, queue) => done (queue.push block).1
          { prober with injectionQueues := prober.injectionQueues.set channel (queue.push block).2 }
      | .error cause => failed cause prober := by
  unfold enqueue
  rw [yields_bind, yields_get, yields_bind, yields_ofExcept]
  cases prober.queueOf .injection slot <;> exact Iff.rfl

/-- The same session is set up, by the same workers, with the same queues open; something about the device
is as before. -/
structure Calm (view : δ → ω) (before after : Prober δ) : Prop where
  setup : after.setup = before.setup
  extractor : after.extractor.isSome = before.extractor.isSome
  injectors : after.injectors.map (fun injector => (injector.channel, injector.sink)) =
    before.injectors.map fun injector => (injector.channel, injector.sink)
  gates : ∀ flow, gates (after.queues flow) = gates (before.queues flow)
  device : view after.device = view before.device

namespace Calm

variable {before after : Prober δ}

theorem refl : Calm view prober prober := ⟨rfl, rfl, rfl, fun _ => rfl, rfl⟩

theorem of_device {device : δ} (kept : view device = view prober.device) :
    Calm view prober { prober with device } :=
  ⟨rfl, rfl, rfl, fun flow => by cases flow <;> rfl, kept⟩

theorem comp (calm : Calm view before after) (part : ω → ω') : Calm (part ∘ view) before after :=
  { calm with device := congrArg part calm.device }

theorem symm (calm : Calm view before after) : Calm view after before :=
  ⟨calm.setup.symm, calm.extractor.symm, calm.injectors.symm, fun flow => (calm.gates flow).symm, calm.device.symm⟩

/-- The extraction worker and its queues may go on as long as no queue is opened or closed. -/
theorem of_extraction {extractor : Option Extractor} {queues : List BlockQueue} {events : List WorkerEvent}
    (there : extractor.isSome = prober.extractor.isSome)
    (gate : Prober.gates queues = Prober.gates prober.extractionQueues) :
    Calm view prober { prober with extractor, extractionQueues := queues, events } where
  setup := by
    refine setup_congr rfl rfl (fun flow => by cases flow <;> rfl) fun flow => ?_
    cases flow with
    | extraction => exact length_of_gates gate
    | injection => rfl
  extractor := there
  injectors := rfl
  gates flow := by
    cases flow with
    | extraction => exact gate
    | injection => rfl
  device := rfl

/-- So may the injection workers and theirs. -/
theorem of_injection {device : δ} {injectors : List (Injector δ)} {queues : List BlockQueue}
    {events : List WorkerEvent} (kept : view device = view prober.device)
    (workers : injectors.map (fun injector => (injector.channel, injector.sink)) =
      prober.injectors.map fun injector => (injector.channel, injector.sink))
    (gate : Prober.gates queues = Prober.gates prober.injectionQueues) :
    Calm view prober { prober with device, injectors, injectionQueues := queues, events } where
  setup := by
    refine setup_congr rfl rfl (fun flow => by cases flow <;> rfl) fun flow => ?_
    cases flow with
    | extraction => rfl
    | injection => exact length_of_gates gate
  extractor := rfl
  injectors := workers
  gates flow := by
    cases flow with
    | extraction => rfl
    | injection => exact gate
  device := kept

theorem sinksKeep {other : δ → ω'} (calm : Calm view before after) (keep : SinksKeep other before) :
    SinksKeep other after := by
  intro injector member
  have same : (injector.channel, injector.sink) ∈
      before.injectors.map fun injector => (injector.channel, injector.sink) := by
    rw [← calm.injectors]
    exact List.mem_map_of_mem member
  obtain ⟨earlier, isEarlier, equal⟩ := List.mem_map.mp same
  rw [← (Prod.mk.inj equal).2]
  exact keep earlier isEarlier

theorem channels (calm : Calm view before after) :
    after.injectors.map (·.channel) = before.injectors.map (·.channel) := by
  have pairs := congrArg (List.map Prod.fst) calm.injectors
  rw [List.map_map, List.map_map] at pairs
  exact pairs

theorem halted (calm : Calm view before after) (halted : before.Halted) : after.Halted where
  extractor := by
    have none := calm.extractor
    rw [halted.extractor] at none
    simpa using none
  injectors := by
    have none := calm.injectors
    rw [halted.injectors] at none
    simpa using none
  queues flow queue member := by
    have closed : queue.isOpen ∈ Prober.gates (before.queues flow) := by
      rw [← calm.gates flow]
      exact List.mem_map_of_mem member
    obtain ⟨earlier, isEarlier, same⟩ := List.mem_map.mp closed
    rw [← same]
    exact halted.queues flow earlier isEarlier

end Calm

/-- The driver has nothing to do with whether the workers are there. -/
theorem Halted.with_device (halted : prober.Halted) (device : δ) : ({ prober with device } : Prober δ).Halted :=
  have calm : Calm (fun _ => ()) prober { prober with device } := .of_device rfl
  calm.halted halted

/-! ## Blocks for clients -/

theorem calm_dequeue (slot : Nat) :
    (dequeue slot).Yields prober (fun _ => Calm view prober) (fun _ => Calm view prober) := by
  rw [yields_dequeue]
  cases found : prober.queueOf .extraction slot with
  | error cause => exact .refl
  | ok entry =>
    obtain ⟨channel, queue⟩ := entry
    obtain ⟨-, isQueue⟩ := queueOf_eq_ok found
    have isExtraction : prober.extractionQueues[channel]? = some queue := isQueue
    refine .of_extraction rfl (gates_set ?_)
    simpa [List.getD_eq_getElem?_getD, isExtraction] using queue.isOpen_pop

theorem calm_enqueue (slot : Nat) (block : List UInt8) :
    (enqueue slot block).Yields prober (fun _ => Calm view prober) (fun _ => Calm view prober) := by
  rw [yields_enqueue]
  cases found : prober.queueOf .injection slot with
  | error cause => exact .refl
  | ok entry =>
    obtain ⟨channel, queue⟩ := entry
    obtain ⟨-, isQueue⟩ := queueOf_eq_ok found
    have isInjection : prober.injectionQueues[channel]? = some queue := isQueue
    refine .of_injection rfl rfl (gates_set ?_)
    simpa [List.getD_eq_getElem?_getD, isInjection] using queue.isOpen_push block

/-! ## Streams of the workers -/

theorem calm_receiveReading (reading : Reading) : Calm view prober (prober.receiveReading reading) := by
  unfold receiveReading
  cases there : prober.extractor with
  | none => exact .refl
  | some extractor =>
    obtain ⟨-, fills⟩ :=
      Extraction.fills_receive reading ⟨extractor, prober.extractionQueues, prober.events⟩
    exact .of_extraction (by rw [there]; rfl) fills.gates

theorem calm_receiveGrant (keep : SinksKeep view prober) (grant : Grant) (channel : Nat) :
    Calm view prober (prober.receiveGrant grant channel) := by
  unfold receiveGrant receiveGrantAt
  cases prober.injectorOf channel with
  | none => exact .refl
  | some place =>
    dsimp only
    cases there : prober.injectors[place]? with
    | none => exact .refl
    | some injector =>
      dsimp only
      cases found : prober.injectionQueues[injector.channel]? with
      | none => exact .refl
      | some queue =>
        have member : injector ∈ prober.injectors := List.mem_of_getElem? there
        obtain ⟨sameChannel, sameSink, gate, kept⟩ :=
          Injector.receive_keeps (keep injector member) grant queue prober.device
        refine .of_injection kept ?_ (gates_set ?_)
        · refine List.ext_getElem? fun other => ?_
          by_cases here : place = other
          · subst here
            obtain ⟨inside, isThere⟩ := List.getElem?_eq_some_iff.mp there
            simp [inside, isThere, sameChannel, sameSink]
          · simp [here]
        · simpa [List.getD_eq_getElem?_getD, sameChannel, found] using gate

end Prober

end DspInspector

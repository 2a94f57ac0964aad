import DspInspector.Proofs.Probe.Feeding
import DspInspector.Proofs.Probe.Steps
import DspInspector.Proofs.Probe.Walks
import Mathlib.Logic.Function.Basic

/-!
# Clients and workers beside a start or a stop

A client that injects looks its channel up under the lock of the prober, but pushes its block without it.
So clients and workers go on at the queues while a session is configured, started or stopped, between any
two steps that this takes at a queue or at the driver. A floor is a prober together with the clients that
have still to push, a script of what happens at those points, and a record of who took which block. A
configuration, a start and a stop are written again with a pause at every point. Where nothing is scripted
they are what they are on the prober alone (`mirrors_configure`, `mirrors_setActive`).
-/

namespace DspInspector

open DspInspector.Action

variable {δ α β : Type}

/-- A push waits, is refused, or adds the block to an open queue. -/
theorem BoundedQueue.push_cases (queue : BoundedQueue α) (item : α) :
    queue.push item = (.waits, queue) ∨ queue.push item = (.finished false, queue) ∨
      queue.isOpen = true ∧ queue.push item = (.finished true, queue.append item) := by
  unfold push
  split
  · exact .inr (.inl rfl)
  · split
    · exact .inr (.inl rfl)
    · rename_i isOpen
      split
      · exact .inr (.inr ⟨by simpa using isOpen, rfl⟩)
      · exact .inl rfl

/-! ## Blocks and workers -/

/-- A block that is to be pushed, with what its client was told. -/
structure Ticket where
  slot : Nat
  block : List UInt8
  channel : Nat
  /-- The probes that were configured when the channel was looked up. -/
  probes : List Probe
  deriving DecidableEq

/-- A block that a queue has accepted. -/
structure Admission where
  ticket : Ticket
  /-- How often the queue had been closed before. -/
  period : Nat
  /-- A worker was there for the queue. -/
  attended : Bool
  /-- The session was not being configured, started or stopped. -/
  quiet : Bool
  deriving DecidableEq

/-- What an injection worker was started for, and what it did. -/
structure Post where
  slot : Nat
  channel : Nat
  /-- The probes that were configured when it was started. -/
  probes : List Probe
  /-- How often its queue had been closed before. -/
  period : Nat
  /-- The blocks it took from its queue. -/
  taken : List Admission := []
  /-- What it wrote to its sink. -/
  writes : List (List UInt8) := []
  deriving DecidableEq

/-- The worker takes some blocks and writes. -/
def Post.served (blocks : List Admission) (writes : List (List UInt8)) (post : Post) : Post :=
  { post with taken := post.taken ++ blocks, writes := post.writes ++ writes }

namespace Feeder

/-- Takes one block from the queue and leaves it to be cut. -/
def fetch (feeder : Feeder) (queue : BlockQueue) : Feeder × BlockQueue :=
  match queue.tryPop with
  | (some block, queue) => ({ feeder with carry := feeder.carry ++ block }, queue)
  | (none, queue) => (feeder, queue)

/-- A worker that still wants bytes may fetch a block first. -/
theorem next_fetch {count : Nat} {feeder : Feeder} (queue : BlockQueue)
    (wants : feeder.carry.length < count * feeder.sampleBytes) :
    (feeder.fetch queue).1.next count (feeder.fetch queue).2 = feeder.next count queue := by
  cases items : queue.items with
  | nil => simp only [fetch, BoundedQueue.tryPop, items]
  | cons block blocks =>
    have popped : queue.tryPop.1 = some block := by simp [BoundedQueue.tryPop, items]
    have fetched : feeder.fetch queue =
        ({ feeder with carry := feeder.carry ++ block }, queue.tryPop.2) := by
      simp only [fetch, BoundedQueue.tryPop, items]
    have left : ¬ count * feeder.sampleBytes - feeder.carry.length = 0 := by omega
    have all : feeder.carry.take (count * feeder.sampleBytes) = feeder.carry := List.take_of_length_le (by omega)
    have none : feeder.carry.drop (count * feeder.sampleBytes) = [] := List.drop_of_length_le (by omega)
    have more : count * feeder.sampleBytes -
          (feeder.carry.length + min (count * feeder.sampleBytes - feeder.carry.length) block.length) =
        count * feeder.sampleBytes - feeder.carry.length - block.length := by omega
    have gathered : gather (count * feeder.sampleBytes - feeder.carry.length) queue =
        (block.take (count * feeder.sampleBytes - feeder.carry.length) ++
            (gather (count * feeder.sampleBytes - feeder.carry.length - block.length) queue.tryPop.2).1,
          block.drop (count * feeder.sampleBytes - feeder.carry.length) ++
            (gather (count * feeder.sampleBytes - feeder.carry.length - block.length) queue.tryPop.2).2.1,
          (gather (count * feeder.sampleBytes - feeder.carry.length - block.length) queue.tryPop.2).2.2) := by
      rw [gather, if_neg left]
      split
      · rename_i dry
        rw [popped] at dry
        cases dry
      · rename_i other isOther
        rw [popped] at isOther
        cases isOther
        rfl
    rw [fetched]
    simp only [next, List.take_append, List.drop_append, all, none, List.length_append, List.length_take, more,
      gathered, List.append_assoc, List.nil_append]

/-- Blocks were taken from the front of a queue, and host bytes were given from the front of the stock. -/
structure Drawn (host : List UInt8) (feeder : Feeder) (queue : BlockQueue) (feeder' : Feeder)
    (queue' : BlockQueue) : Prop where
  suffix : queue'.items <:+ queue.items
  gate : queue'.isOpen = queue.isOpen
  stock : host ++ feeder'.stock queue' = feeder.stock queue

theorem suffix_tryPop (queue : BlockQueue) : queue.tryPop.2.items <:+ queue.items := by
  unfold BoundedQueue.tryPop
  split
  · exact List.suffix_refl _
  · rename_i block blocks items
    rw [items]
    exact List.suffix_cons block blocks

theorem suffix_gather (wanted : Nat) (queue : BlockQueue) :
    (gather wanted queue).2.2.items <:+ queue.items := by
  fun_induction gather wanted queue with
  | case1 queue => exact List.suffix_refl _
  | case2 wanted queue _ dry => exact List.suffix_refl _
  | case3 wanted queue _ block popped bytes carry after gathered ih =>
    rw [gathered] at ih
    exact ih.trans (suffix_tryPop queue)

/-- What the next call gives. -/
def portion (count : Nat) (feeder : Feeder) (queue : BlockQueue) : Portion where
  host := (feeder.stock queue).take (count * feeder.sampleBytes)
  silence := count * feeder.sampleBytes - (feeder.stock queue).length

theorem bytes_portion (count : Nat) (feeder : Feeder) (queue : BlockQueue) :
    (feeder.portion count queue).bytes = (feeder.next count queue).1 := (next_eq count feeder queue).1.symm

/-- A call draws what it gives apart from silence. -/
theorem drawn_next (count : Nat) (feeder : Feeder) (queue : BlockQueue) :
    Drawn (feeder.portion count queue).host feeder queue (feeder.next count queue).2.1
      (feeder.next count queue).2.2 where
  suffix := suffix_gather _ queue
  gate := isOpen_next count feeder queue
  stock := by rw [(next_eq count feeder queue).2.2, portion, List.take_append_drop]

theorem drawn_fetch (feeder : Feeder) (queue : BlockQueue) :
    Drawn [] feeder queue (feeder.fetch queue).1 (feeder.fetch queue).2 := by
  cases items : queue.items with
  | nil =>
    have same : feeder.fetch queue = (feeder, queue) := by simp only [fetch, BoundedQueue.tryPop, items]
    rw [same]
    exact ⟨List.suffix_refl _, rfl, rfl⟩
  | cons block blocks =>
    have fetched : feeder.fetch queue =
        ({ feeder with carry := feeder.carry ++ block }, queue.tryPop.2) := by
      simp only [fetch, BoundedQueue.tryPop, items]
    have left : queue.tryPop.2.items = blocks := by simp only [BoundedQueue.tryPop, items]
    rw [fetched]
    refine ⟨suffix_tryPop queue, queue.isOpen_tryPop, ?_⟩
    simp only [stock, left, items, List.nil_append, List.flatten_cons, List.append_assoc]

end Feeder

/-- How many samples a worker writes when it is told about the room in its buffer. -/
def Injector.demand (room : Grant) (injector : Injector δ) : Nat :=
  match injector.isRunning, room with
  | true, .available bytes => bytes / injector.feeder.sampleBytes
  | _, _ => 0

/-- What it writes. -/
def Injector.writes (room : Grant) (injector : Injector δ) (queue : BlockQueue) : List (List UInt8) :=
  if 0 < injector.demand room then [(injector.feeder.next (injector.demand room) queue).1] else []

/-- The driver after something was written to a sink. -/
def Sink.written (sink : Sink δ) (writes : List (List UInt8)) (device : δ) : δ :=
  writes.foldl (fun device bytes => ((sink.write bytes).run device).2) device

namespace Prober

/-- The queue of an injection channel. -/
def injectionQueue (channel : Nat) (prober : Prober δ) : BlockQueue :=
  prober.injectionQueues.getD channel (.ofBudget 0)

/-- The prober with another queue for an injection channel. -/
def withQueue (channel : Nat) (queue : BlockQueue) (prober : Prober δ) : Prober δ :=
  { prober with injectionQueues := prober.injectionQueues.set channel queue }

/-- Writes the next samples of a worker that is being started. -/
def supply (channel : Nat) (sink : Sink δ) (count : Nat) (feeder : Feeder) :
    Action ProbeError (Prober δ) Feeder :=
  Action.onPart (fun prober => (prober.injectionQueue channel, prober.device))
    (fun (queue, device) prober => { prober.withQueue channel queue with device })
    (Injector.writeSamples sink count feeder)

/-- Stops the first injection worker. -/
def haltFirst (prober : Prober δ) : Prober δ :=
  match prober.injectors with
  | [] => prober
  | injector :: injectors =>
    { prober with
      injectors
      injectionQueues := prober.injectionQueues.modify injector.channel fun queue => (injector.stop queue).2 }

/-- Closes the queue of an injection channel. -/
def closeQueue (channel : Nat) (prober : Prober δ) : Prober δ :=
  { prober with injectionQueues := prober.injectionQueues.modify channel BoundedQueue.closed }

end Prober

/-! ## The floor -/

/-- What a client or a worker does while others do something else. A client and a worker are named by their
place. -/
inductive Move where
  /-- The client pushes its block, if it is its turn. -/
  | push (place : Nat)
  /-- The worker takes a block on the way to a write. -/
  | fetch (place : Nat)
  /-- So does the worker that is being started. -/
  | prefetch
  /-- The worker is told about the room in its buffer. -/
  | grant (room : Grant) (place : Nat)

/-- A prober, with those who act at its queues. -/
structure Floor (δ : Type) where
  prober : Prober δ
  /-- The clients that have still to push. -/
  waiting : List Ticket
  /-- The blocks in the queue of each injection channel. -/
  held : Nat → List Admission
  /-- How often each of these queues was closed. -/
  closings : Nat → Nat
  /-- The posts of the injection workers, in the same order. -/
  crew : List Post
  /-- The worker that is being started. -/
  starting : Option (Feeder × Post)
  /-- The posts of the workers that are gone. -/
  retired : List Post
  /-- The session is being configured, started or stopped. -/
  busy : Bool
  /-- What happens at each point where this pauses. -/
  script : List (List Move)

namespace Floor

/-- A prober with nobody about. -/
def ofProber (prober : Prober δ) : Floor δ where
  prober
  waiting := []
  held _ := []
  closings _ := 0
  crew := []
  starting := none
  retired := []
  busy := false
  script := []

/-- The posts of all workers that were ever started. -/
def posts (floor : Floor δ) : List Post := floor.retired ++ floor.crew ++ (floor.starting.map (·.2)).toList

/-- There is a worker on the channel. -/
def attended (channel : Nat) (floor : Floor δ) : Bool := floor.prober.injectors.any (·.channel == channel)

/-- The record of a block that is accepted now. -/
def admission (ticket : Ticket) (floor : Floor δ) : Admission where
  ticket
  period := floor.closings ticket.channel
  attended := floor.attended ticket.channel
  quiet := !floor.busy

/-- The blocks that are taken when so many are left. -/
def taken (channel left : Nat) (floor : Floor δ) : List Admission :=
  (floor.held channel).take ((floor.held channel).length - left)

/-- The blocks in each queue when so many are left in one. -/
def heldAfter (channel left : Nat) (floor : Floor δ) : Nat → List Admission :=
  Function.update floor.held channel ((floor.held channel).drop ((floor.held channel).length - left))

/-- A client has its turn at the queue of its channel. -/
def push (place : Nat) (floor : Floor δ) : Floor δ :=
  match floor.waiting[place]? with
  | none => floor
  | some ticket =>
    match (floor.prober.injectionQueue ticket.channel).push ticket.block with
    | (.waits, _) => floor
    | (.finished false, _) => { floor with waiting := floor.waiting.eraseIdx place }
    | (.finished true, queue) =>
      { floor with
        prober := floor.prober.withQueue ticket.channel queue
        waiting := floor.waiting.eraseIdx place
        held := Function.update floor.held ticket.channel
          (floor.held ticket.channel ++ [floor.admission ticket]) }

/-- A worker takes a block. -/
def fetch (place : Nat) (floor : Floor δ) : Floor δ :=
  match floor.prober.injectors[place]? with
  | none => floor
  | some injector =>
    if injector.isRunning then
      let (feeder, queue) := injector.feeder.fetch (floor.prober.injectionQueue injector.channel)
      { floor with
        prober := { floor.prober.withQueue injector.channel queue with
          injectors := floor.prober.injectors.set place { injector with feeder } }
        held := floor.heldAfter injector.channel queue.items.length
        crew := floor.crew.modify place (Post.served (floor.taken injector.channel queue.items.length) []) }
    else floor

/-- The worker that is being started takes a block. -/
def prefetch (floor : Floor δ) : Floor δ :=
  match floor.starting with
  | none => floor
  | some (feeder, post) =>
    let (feeder, queue) := feeder.fetch (floor.prober.injectionQueue post.channel)
    { floor with
      prober := floor.prober.withQueue post.channel queue
      held := floor.heldAfter post.channel queue.items.length
      starting := some (feeder, post.served (floor.taken post.channel queue.items.length) []) }

/-- A worker is told about the room in its buffer. -/
def grant (room : Grant) (place : Nat) (floor : Floor δ) : Floor δ :=
  match floor.prober.injectors[place]? with
  | none => floor
  | some injector =>
    match floor.prober.injectionQueues[injector.channel]? with
    | none => floor
    | some queue =>
      let writes := injector.writes room queue
      let (_, _, queue) := injector.feeder.next (injector.demand room) queue
      { floor with
        prober := floor.prober.receiveGrantAt room place
        held := floor.heldAfter injector.channel queue.items.length
        crew := floor.crew.modify place
          (Post.served (floor.taken injector.channel queue.items.length) writes) }

/-- The floor after a move. -/
def after (floor : Floor δ) : Move → Floor δ
  | .push place => floor.push place
  | .fetch place => floor.fetch place
  | .prefetch => floor.prefetch
  | .grant room place => floor.grant room place

/-! ## Calls with pauses -/

/-- The others do what is scripted. -/
def pause : Action ProbeError (Floor δ) Unit :=
  modify fun floor =>
    match floor.script with
    | [] => floor
    | moves :: script => { moves.foldl after floor with script }

/-- An action on the prober that nobody interrupts. -/
def inside (action : Action ProbeError (Prober δ) α) : Action ProbeError (Floor δ) α :=
  Action.onPart Floor.prober (fun prober floor => { floor with prober }) action

/-- Programs the channels of a flow, beginning with a given one. -/
def programFrom (driver : ProbeDevice δ) (flow : Flow) :
    (channel : Nat) → List Probe → Action ProbeError (Floor δ) Unit
  | _, [] => pure ()
  | channel, probe :: probes => do
    pause
    inside (Prober.programFrom driver flow channel [probe])
    programFrom driver flow (channel + 1) probes

/-- Programs every channel of a flow. -/
def program (driver : ProbeDevice δ) (flow : Flow) : Action ProbeError (Floor δ) Unit := do
  let prober ← inside get
  programFrom driver flow 0
    (Prober.channelProbes prober.probes (prober.channelMap flow) (prober.queues flow).length)

/-- Programs every channel. -/
def programAll (driver : ProbeDevice δ) : Action ProbeError (Floor δ) Unit := do
  program driver .extraction
  program driver .injection

/-- Takes over the configuration of the next session. -/
def configure (driver : ProbeDevice δ) (probes : List Probe) (sampleSizes : SampleSizes) :
    Action ProbeError (Floor δ) Unit := do
  let prober ← inside get
  let active ← Action.ofExcept (prober.checkSession probes)
  pause
  let stage ← Action.mapError (fun cause => .stageRead cause.message) (inside (Prober.onDevice driver.stage))
  if stage = .active then throw .configWhileActive
  inside (modify fun prober => { prober with
    probes, sampleSizes
    extractionMap := Prober.compact active.extraction
    injectionMap := Prober.compact active.injection })
  if stage = .owned then programAll driver

/-- Finds a worker for a slot, that is still to fill its buffer. -/
def enrol (slot channel sampleBytes : Nat) (floor : Floor δ) : Floor δ :=
  { floor with
    starting := some ({ sampleBytes },
      { slot, channel, probes := floor.prober.probes, period := floor.closings channel }) }

/-- The post of the worker that is being started, once it has written its first samples, and the floor
without it. -/
def enter (count : Nat) (feeder : Feeder) (post : Post) (floor : Floor δ) : Post × Floor δ :=
  let (bytes, _, queue) := feeder.next count (floor.prober.injectionQueue post.channel)
  (post.served (floor.taken post.channel queue.items.length) [bytes],
    { floor with held := floor.heldAfter post.channel queue.items.length, starting := none })

/-- A worker has joined the others. -/
def join (injector : Injector δ) (post : Post) (floor : Floor δ) : Floor δ :=
  { floor with
    prober := { floor.prober with injectors := floor.prober.injectors ++ [injector] }
    crew := floor.crew ++ [post] }

/-- The worker that is being started fills its buffer and joins the others, or is gone. -/
def prefill (sink : Sink δ) : Action ProbeError (Floor δ) Unit := do
  let floor ← get
  match floor.starting with
  | none => pure ()
  | some (feeder, post) =>
    let count := sink.size / feeder.sampleBytes
    let served := (floor.enter count feeder post).1
    modify fun floor => (floor.enter count feeder post).2
    match ← (inside (Prober.supply post.channel sink count feeder)).attempt with
    | .ok feeder => modify (join ⟨post.channel, sink, feeder, true, false⟩ served)
    | .error cause =>
      modify fun floor => { floor with retired := floor.retired ++ [served] }
      throw cause

theorem yields_prefill {floor : Floor δ} {sink : Sink δ} {feeder : Feeder} {post : Post}
    {done : Unit → Floor δ → Prop} {failed : ProbeError → Floor δ → Prop}
    (there : floor.starting = some (feeder, post)) :
    (prefill sink).Yields floor done failed ↔
      (Prober.supply post.channel sink (sink.size / feeder.sampleBytes) feeder).Yields floor.prober
        (fun feeder' prober =>
          let (served, entered) := floor.enter (sink.size / feeder.sampleBytes) feeder post
          done () (join ⟨post.channel, sink, feeder', true, false⟩ served { entered with prober }))
        (fun cause prober =>
          let (served, entered) := floor.enter (sink.size / feeder.sampleBytes) feeder post
          failed cause { entered with prober, retired := entered.retired ++ [served] }) := by
  unfold prefill
  rw [yields_bind, yields_get, there]
  dsimp only
  rw [yields_bind, yields_modify, yields_bind, yields_attempt, inside, yields_onPart]
  exact Iff.rfl

/-- Starts the injection worker of a slot. -/
def startInjection (driver : ProbeDevice δ) (slot channel : Nat) : Action ProbeError (Floor δ) Unit := do
  pause
  inside (modify fun prober => { prober with
    injectionQueues := Prober.openQueue channel prober.injectionQueues })
  let prober ← inside get
  match prober.sampleSizes.find? slot with
  | none => throw (.missingSampleSize slot)
  | some 0 => throw (.zeroSampleSize slot)
  | some sampleBytes =>
    pause
    let sink ← inside (Prober.onDevice (driver.openInjection channel))
    modify (enrol slot channel sampleBytes)
    pause
    prefill sink

/-- Starts the injection workers of some slots. -/
def startInjections (driver : ProbeDevice δ) : List (Nat × Nat) → Action ProbeError (Floor δ) Unit
  | [] => pure ()
  | (slot, channel) :: entries => do
    startInjection driver slot channel
    startInjections driver entries

/-- Starts every worker. -/
def startWorkers (driver : ProbeDevice δ) : Action ProbeError (Floor δ) Unit := do
  pause
  inside (Prober.startExtraction driver)
  let prober ← inside get
  startInjections driver prober.injectionMap.entries

/-- The first injection worker is stopped and gone, and its queue empty. -/
def haltFirst (floor : Floor δ) : Floor δ :=
  match floor.prober.injectors with
  | [] => floor
  | injector :: _ =>
    { floor with
      prober := floor.prober.haltFirst
      held := Function.update floor.held injector.channel []
      crew := floor.crew.drop 1
      retired := floor.retired ++ floor.crew.take 1 }

/-- Stops so many injection workers. -/
def haltMany : (count : Nat) → Action ProbeError (Floor δ) Unit
  | 0 => pure ()
  | count + 1 => do
    pause
    modify haltFirst
    haltMany count

/-- Closes the queue of an injection channel. -/
def closeQueue (channel : Nat) (floor : Floor δ) : Floor δ :=
  { floor with
    prober := floor.prober.closeQueue channel
    closings := Function.update floor.closings channel (floor.closings channel + 1) }

/-- Closes the queues of the first injection channels. -/
def closeBelow : (count : Nat) → Action ProbeError (Floor δ) Unit
  | 0 => pure ()
  | count + 1 => do
    closeBelow count
    pause
    modify (closeQueue count)

/-- Stops the workers, then closes every queue. -/
def stop : Action ProbeError (Floor δ) Unit := do
  inside (modify fun prober => { prober with
    extractor := none
    extractionQueues := prober.extractionQueues.map BoundedQueue.closed })
  let prober ← inside get
  haltMany prober.injectors.length
  closeBelow prober.injectionQueues.length

/-- Starts every worker, or none. -/
def startStreaming (driver : ProbeDevice δ) : Action ProbeError (Floor δ) Unit := do
  match ← (startWorkers driver).attempt with
  | .ok _ => pure ()
  | .error cause =>
    stop
    throw cause

/-- One step of the driver, with what belongs to it. -/
def move (driver : ProbeDevice δ) (source target : Stage) : Action ProbeError (Floor δ) Unit := do
  if target = .active then startStreaming driver else stop
  pause
  inside (Prober.onDevice (driver.move source target))
  if source = .idle ∧ target = .owned then programAll driver

/-- The floor on its way through the stages. -/
def staged (driver : ProbeDevice δ) : Staged (Floor δ) where
  stage := do
    pause
    inside (Prober.onDevice driver.stage)
  move := move driver

/-- Starts or stops the session. -/
def setActive (driver : ProbeDevice δ) (active : Bool) : Action ProbeError (Floor δ) Unit :=
  (staged driver).setActive active

/-! ## Calls -/

/-- A client asks for the channel of a slot, to push a block. -/
def lookUp (slot : Nat) (block : List UInt8) (floor : Floor δ) : Floor δ :=
  match floor.prober.queueOf .injection slot with
  | .ok (channel, _) =>
    { floor with waiting := floor.waiting ++ [⟨slot, block, channel, floor.prober.probes⟩] }
  | .error _ => floor

/-- The floor after a call, with what happens meanwhile. -/
def during (script : List (List Move)) (action : Action ProbeError (Floor δ) Unit)
    (floor : Floor δ) : Floor δ :=
  { (action.run { floor with busy := true, script }).2 with busy := false, script := [] }

end Floor

/-- One thing done to a floor. What needs the lock of the prober is done by one after the other. -/
inductive FloorCall where
  | moves (moves : List Move)
  | lookUp (slot : Nat) (block : List UInt8)
  | configure (probes : List Probe) (sampleSizes : SampleSizes) (script : List (List Move))
  | setActive (active : Bool) (script : List (List Move))

namespace Floor

/-- The floor after a call. -/
def afterCall (driver : ProbeDevice δ) (floor : Floor δ) : FloorCall → Floor δ
  | .moves moves => moves.foldl after floor
  | .lookUp slot block => floor.lookUp slot block
  | .configure probes sampleSizes script => floor.during script (configure driver probes sampleSizes)
  | .setActive active script => floor.during script (setActive driver active)

/-- The floor after some calls. -/
def afterAll (driver : ProbeDevice δ) (floor : Floor δ) (calls : List FloorCall) : Floor δ :=
  calls.foldl (afterCall driver) floor

end Floor

end DspInspector

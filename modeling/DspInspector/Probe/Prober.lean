import DspInspector.Probe.Device
import DspInspector.Probe.Extractor
import DspInspector.Probe.Lifecycle

/-!
# The prober

The prober holds the configuration of a session, one queue for each channel of the driver, and the
workers while they stream. Active probes get the lowest channels in the order of their slots. The
configuration goes to the driver whenever the driver becomes owned, or at once when it already is;
the workers are started on the way into the active stage and stopped on every other step.
-/

namespace DspInspector

/-- The channel of each active slot. -/
abbrev ChannelMap := OrderedMap Nat Nat

/-- The size of a sample, by slot. -/
abbrev SampleSizes := OrderedMap Nat Nat

/-- A probe session. -/
structure Prober (δ : Type) where
  device : δ
  probes : List Probe
  sampleSizes : SampleSizes
  extractionMap : ChannelMap
  injectionMap : ChannelMap
  extractionQueues : List BlockQueue
  injectionQueues : List BlockQueue
  extractor : Option Extractor
  injectors : List (Injector δ)
  /-- What the workers have told so far. -/
  events : List WorkerEvent

namespace Prober

variable {δ : Type}

/-- A prober with every probe disabled. The channels are counted once. -/
def create (driver : ProbeDevice δ) (device : δ) (queueBytes : Nat) : Prober δ :=
  let extractionQueues := List.replicate (driver.channels .extraction device) (.ofBudget queueBytes)
  let injectionQueues := List.replicate (driver.channels .injection device) (.ofBudget queueBytes)
  { device
    probes := List.replicate (extractionQueues.length + injectionQueues.length) Probe.disabled
    sampleSizes := .empty
    extractionMap := .empty
    injectionMap := .empty
    extractionQueues
    injectionQueues
    extractor := none
    injectors := []
    events := [] }

/-- The number of slots of a session. -/
def slots (prober : Prober δ) : Nat :=
  prober.extractionQueues.length + prober.injectionQueues.length

/-- The channels of each flow in use. -/
def channelMap (prober : Prober δ) : Flow → ChannelMap
  | .extraction => prober.extractionMap
  | .injection => prober.injectionMap

/-- The queues of each flow, by channel. -/
def queues (prober : Prober δ) : Flow → List BlockQueue
  | .extraction => prober.extractionQueues
  | .injection => prober.injectionQueues

/-- An action on the driver. -/
def onDevice {α : Type} (action : Action ProbeError δ α) : Action ProbeError (Prober δ) α :=
  Action.onPart Prober.device (fun device prober => { prober with device }) action

/-! ## Configuration -/

/-- Gives the slots the channels 0, 1, 2 and so on. -/
def compact (slots : List Nat) : ChannelMap := .ofList slots.zipIdx

/-- What each of `count` channels is told; a channel that is not in use gets a disabled probe. -/
def channelProbes (probes : List Probe) (map : ChannelMap) (count : Nat) : List Probe :=
  map.entries.foldl
    (fun programmed (slot, channel) =>
      match probes[slot]? with
      | some probe => programmed.set channel probe
      | none => programmed)
    (List.replicate count Probe.disabled)

/-- Programs the channels of a flow, beginning with a given one. -/
def programFrom (driver : ProbeDevice δ) (flow : Flow) :
    (channel : Nat) → List Probe → Action ProbeError (Prober δ) Unit
  | _, [] => pure ()
  | channel, probe :: probes => do
    Action.mapError
      (fun cause => .driver (s!"Failed to write {flow.text} probe control settings: " ++ cause.message))
      (onDevice (driver.program flow channel probe))
    programFrom driver flow (channel + 1) probes

/-- Programs every channel of a flow. -/
def program (driver : ProbeDevice δ) (flow : Flow) : Action ProbeError (Prober δ) Unit := do
  let prober ← get
  programFrom driver flow 0
    (channelProbes prober.probes (prober.channelMap flow) (prober.queues flow).length)

/-- Programs every channel. -/
def programAll (driver : ProbeDevice δ) : Action ProbeError (Prober δ) Unit := do
  program driver .extraction
  program driver .injection

/-- Refuses a session that does not fit the channels. -/
def checkSession (prober : Prober δ) (probes : List Probe) : Except ProbeError ActiveSlots :=
  let active := ActiveSlots.of probes
  if probes.length ≠ prober.slots then .error (.probeCount prober.slots probes.length)
  else if prober.extractionQueues.length < active.extraction.length then
    .error (.tooManyExtractions active.extraction.length)
  else if prober.injectionQueues.length < active.injection.length then
    .error (.tooManyInjections active.injection.length)
  else .ok active

/-- Takes over the configuration of the next session. -/
def configure (driver : ProbeDevice δ) (probes : List Probe) (sampleSizes : SampleSizes) :
    Action ProbeError (Prober δ) Unit := do
  let prober ← get
  let active ← Action.ofExcept (prober.checkSession probes)
  let stage ← Action.mapError (fun cause => .stageRead cause.message) (onDevice driver.stage)
  if stage = .active then throw .configWhileActive
  modify fun prober => { prober with
    probes, sampleSizes
    extractionMap := compact active.extraction
    injectionMap := compact active.injection }
  if stage = .owned then programAll driver

/-! ## Streaming -/

/-- Opens the queue of a channel. -/
def openQueue (channel : Nat) (queues : List BlockQueue) : List BlockQueue :=
  queues.modify channel BoundedQueue.opened

/-- Opens the queues of the extraction probes and finds the channel of each probe point. -/
def preparePoints : List (Nat × Nat) → OrderedMap ProbePoint Nat →
    Action ProbeError (Prober δ) (OrderedMap ProbePoint Nat)
  | [], points => pure points
  | (slot, channel) :: entries, points => do
    modify fun prober => { prober with extractionQueues := openQueue channel prober.extractionQueues }
    let prober ← get
    let point := (prober.probes.getD slot Probe.disabled).point
    if points.contains point then throw (.duplicatePoint point)
    else preparePoints entries (points.insert point channel)

/-- Starts the extraction worker, if there is something to extract. -/
def startExtraction (driver : ProbeDevice δ) : Action ProbeError (Prober δ) Unit := do
  let prober ← get
  if prober.extractionMap.isEmpty then pure ()
  else do
    let points ← preparePoints prober.extractionMap.entries .empty
    onDevice driver.openExtraction
    modify fun prober =>
      let started := Extraction.start points prober.extractionQueues prober.events
      { prober with extractor := some started.extractor, extractionQueues := started.queues }

/-- Starts a worker on the queue of an injection channel. -/
def startInjector (channel : Nat) (sink : Sink δ) (sampleBytes : Nat) :
    Action ProbeError (Prober δ) (Injector δ) :=
  Action.onPart
    (fun prober => (prober.injectionQueues.getD channel (.ofBudget 0), prober.device))
    (fun (queue, device) prober => { prober with
      device, injectionQueues := prober.injectionQueues.set channel queue })
    (Injector.start channel sink sampleBytes)

/-- Starts the injection worker of a slot. -/
def startInjection (driver : ProbeDevice δ) (slot channel : Nat) : Action ProbeError (Prober δ) Unit := do
  modify fun prober => { prober with injectionQueues := openQueue channel prober.injectionQueues }
  let prober ← get
  match prober.sampleSizes.find? slot with
  | none => throw (.missingSampleSize slot)
  | some 0 => throw (.zeroSampleSize slot)
  | some sampleBytes =>
    let sink ← onDevice (driver.openInjection channel)
    let injector ← startInjector channel sink sampleBytes
    modify fun prober => { prober with injectors := prober.injectors ++ [injector] }

/-- Starts the injection workers of some slots. -/
def startInjections (driver : ProbeDevice δ) : List (Nat × Nat) → Action ProbeError (Prober δ) Unit
  | [] => pure ()
  | (slot, channel) :: entries => do
    startInjection driver slot channel
    startInjections driver entries

/-- Starts every worker. -/
def startWorkers (driver : ProbeDevice δ) : Action ProbeError (Prober δ) Unit := do
  startExtraction driver
  let prober ← get
  startInjections driver prober.injectionMap.entries

/-- The queues after some workers were stopped. -/
def stopInjectors (injectors : List (Injector δ)) (queues : List BlockQueue) : List BlockQueue :=
  injectors.foldl
    (fun queues injector => queues.modify injector.channel fun queue => (injector.stop queue).2) queues

/-- Stops the workers, then closes every queue. -/
def stopWorkers (prober : Prober δ) : Prober δ :=
  { prober with
    extractor := none
    injectors := []
    extractionQueues := prober.extractionQueues.map BoundedQueue.closed
    injectionQueues := (stopInjectors prober.injectors prober.injectionQueues).map BoundedQueue.closed }

/-- Starts every worker, or none. -/
def startStreaming (driver : ProbeDevice δ) : Action ProbeError (Prober δ) Unit := do
  match ← (startWorkers driver).attempt with
  | .ok _ => pure ()
  | .error cause =>
    modify stopWorkers
    throw cause

/-- One step of the driver, with what belongs to it. -/
def move (driver : ProbeDevice δ) (source target : Stage) : Action ProbeError (Prober δ) Unit := do
  if target = .active then startStreaming driver else modify stopWorkers
  onDevice (driver.move source target)
  if source = .idle ∧ target = .owned then programAll driver

/-- The prober on its way through the stages. -/
def staged (driver : ProbeDevice δ) : Staged (Prober δ) where
  stage := onDevice driver.stage
  move := move driver

/-- Starts or stops the session. -/
def setActive (driver : ProbeDevice δ) (active : Bool) : Action ProbeError (Prober δ) Unit :=
  (staged driver).setActive active

/-- Whether the session is streaming. -/
def isActive (driver : ProbeDevice δ) : Action ProbeError (Prober δ) Bool := (staged driver).isActive

/-- Leaves the driver in peace when the prober is not needed any more. -/
def release (driver : ProbeDevice δ) : Action ProbeError (Prober δ) Unit := (staged driver).stopQuietly

/-! ## Blocks -/

/-- The channel of a slot. -/
def channelOf (flow : Flow) (slot : Nat) (prober : Prober δ) : Except ProbeError Nat :=
  match (prober.channelMap flow).find? slot with
  | some channel => .ok channel
  | none => .error (.unknownProbe slot)

/-- The channel of a slot and the queue of the channel. -/
def queueOf (flow : Flow) (slot : Nat) (prober : Prober δ) : Except ProbeError (Nat × BlockQueue) := do
  let channel ← prober.channelOf flow slot
  match (prober.queues flow)[channel]? with
  | some queue => pure (channel, queue)
  | none => throw (.wrongProbe slot)

/-- Takes the next block of an extraction probe. Nothing is left once the session has stopped and the
queue is empty. -/
def dequeue (slot : Nat) : Action ProbeError (Prober δ) (Turn (Option (List UInt8))) := do
  let prober ← get
  let (channel, queue) ← Action.ofExcept (prober.queueOf .extraction slot)
  let (turn, queue) := queue.pop
  set { prober with extractionQueues := prober.extractionQueues.set channel queue }
  pure turn

/-- Gives a block to an injection probe and tells whether it got in. -/
def enqueue (slot : Nat) (block : List UInt8) : Action ProbeError (Prober δ) (Turn Bool) := do
  let prober ← get
  let (channel, queue) ← Action.ofExcept (prober.queueOf .injection slot)
  let (turn, queue) := queue.push block
  set { prober with injectionQueues := prober.injectionQueues.set channel queue }
  pure turn

/-! ## Streams -/

/-- The extraction worker reads once. -/
def receiveReading (reading : Reading) (prober : Prober δ) : Prober δ :=
  match prober.extractor with
  | none => prober
  | some extractor =>
    let after := Extraction.receive reading ⟨extractor, prober.extractionQueues, prober.events⟩
    { prober with
      extractor := some after.extractor
      extractionQueues := after.queues
      events := after.events }

/-- The injection worker at a place in the list is told about the room in its buffer. -/
def receiveGrantAt (grant : Grant) (place : Nat) (prober : Prober δ) : Prober δ :=
  match prober.injectors[place]? with
  | none => prober
  | some injector =>
    match prober.injectionQueues[injector.channel]? with
    | none => prober
    | some queue =>
      let (injector, events, queue, device) := injector.receive grant queue prober.device
      { prober with
        device
        injectors := prober.injectors.set place injector
        injectionQueues := prober.injectionQueues.set injector.channel queue
        events := prober.events ++ events }

/-- The place of the worker that was started last on an injection channel. -/
def injectorOf (channel : Nat) (prober : Prober δ) : Option Nat :=
  (prober.injectors.reverse.findIdx? (·.channel == channel)).map (prober.injectors.length - 1 - ·)

/-- The injection worker of a channel is told about the room in its buffer. -/
def receiveGrant (grant : Grant) (channel : Nat) (prober : Prober δ) : Prober δ :=
  match prober.injectorOf channel with
  | none => prober
  | some place => receiveGrantAt grant place prober

/-- The extraction worker is there. -/
def extracts (prober : Prober δ) : Bool := prober.extractor.any (·.isRunning)

/-- The injection worker of a channel is there. -/
def injects (channel : Nat) (prober : Prober δ) : Bool :=
  ((prober.injectorOf channel).bind (prober.injectors[·]?)).any (·.isRunning)

end Prober

end DspInspector

import DspInspector.Data.OrderedMap
import DspInspector.Fault
import DspInspector.Graph.Pipeline
import DspInspector.Module.Instance

/-!
# Links

Two pins on one queue are connected. Links are found in two passes: first between consecutive
instances of each pipeline, then between all pins that are left, so that a pipeline can feed another
one. In both passes each output takes the first input on its queue that is still free.
-/

namespace DspInspector

/-- Where the samples of a pin go. -/
inductive Direction where
  | input
  | output
  deriving DecidableEq

/-- The name of a direction. -/
def Direction.text : Direction → String
  | .input => "input"
  | .output => "output"

/-- A pin that may be linked, with the queue it is on. -/
structure Endpoint where
  owner : InstanceId
  direction : Direction
  index : UInt32
  queueId : UInt32
  deriving DecidableEq

/-- The complaint about a pin without a peer. -/
def Endpoint.complaint (pin : Endpoint) : String :=
  s!"Unconnected {pin.direction.text} pin #{pin.index.toNat} of module instance " ++
    s!"ID #{pin.owner.instanceId.toNat} (Module ID #{pin.owner.moduleId.toNat}): " ++
    s!"expecting connection through queue ID #{pin.queueId.toNat}"

/-- A connection from an output pin to an input pin. -/
structure Link where
  source : InstanceId
  sourcePin : UInt32
  target : InstanceId
  targetPin : UInt32
  deriving DecidableEq

namespace Link

/-- The link between two pins. -/
def between (output input : Endpoint) : Link := ⟨output.owner, output.index, input.owner, input.index⟩

/-- The link as it is shown to a person. -/
def text (link : Link) : String :=
  s!"{link.source.text}:out{link.sourcePin.toNat} -> {link.target.text}:in{link.targetPin.toNat}"

end Link

/-- The props of the running module instances. -/
abbrev InstanceMap := OrderedMap InstanceId InstanceProps

/-- The pins of an instance on one side, and the gateway there. -/
def InstanceProps.side (props : InstanceProps) : Direction → List Pin × ConnectorId
  | .input => (props.inputPins, props.inputGateway)
  | .output => (props.outputPins, props.outputGateway)

/-- The pins of an instance that may be linked: those on a queue, without pin 0 where a gateway takes
its place. -/
def InstanceProps.endpoints (props : InstanceProps) (id : InstanceId) (direction : Direction) :
    List Endpoint :=
  let (pins, gateway) := props.side direction
  ((pins.zipIdx.drop (if gateway.isValid then 1 else 0)).filter (·.1.isConnected)).map
    fun (pin, index) => ⟨id, direction, UInt32.ofNat index, pin.queueId⟩

/-- Links found, and the pins that are still free. -/
structure Matching where
  links : List Link
  outputs : List Endpoint
  inputs : List Endpoint
  deriving DecidableEq

namespace Matching

/-- Nothing found and nothing left. -/
def empty : Matching := ⟨[], [], []⟩

/-- Gives each output, in order, the first free input on its queue. -/
def firstFit : (outputs inputs : List Endpoint) → Matching
  | [], inputs => ⟨[], [], inputs⟩
  | output :: outputs, inputs =>
    match inputs.findIdx? (·.queueId == output.queueId) with
    | some place =>
      let later := firstFit outputs (inputs.eraseIdx place)
      match inputs[place]? with
      | some input => { later with links := Link.between output input :: later.links }
      | none => later
    | none =>
      let later := firstFit outputs inputs
      { later with outputs := output :: later.outputs }

/-- Both matchings, the first one first. -/
def append (first second : Matching) : Matching :=
  ⟨first.links ++ second.links, first.outputs ++ second.outputs, first.inputs ++ second.inputs⟩

end Matching

namespace InstanceMap

/-- The props of an instance that has to be there. -/
def props (instances : InstanceMap) (id : InstanceId) : Except TopologyError InstanceProps :=
  match instances.find? id with
  | some props => .ok props
  | none => .error (.undefinedInstance id)

/-- The pins of an instance that may be linked. -/
def endpoints (instances : InstanceMap) (id : InstanceId) (direction : Direction) :
    Except TopologyError (List Endpoint) := do
  let props ← props instances id
  pure (props.endpoints id direction)

/-- Links an instance with the next one. -/
def matchPair (instances : InstanceMap) (source target : InstanceId) : Except TopologyError Matching := do
  let outputs ← endpoints instances source .output
  let inputs ← endpoints instances target .input
  pure (Matching.firstFit outputs inputs)

/-- Links each instance with the next one. -/
def matchPairs (instances : InstanceMap) : List InstanceId → Except TopologyError Matching
  | source :: target :: ids => do
    let pair ← matchPair instances source target
    let others ← matchPairs instances (target :: ids)
    pure (pair.append others)
  | _ => pure .empty

/-- Links inside one pipeline. The inputs of its first instance and the outputs of its last one are
left for other pipelines, in front of what its pairs leave. -/
def matchPipeline (instances : InstanceMap) (ids : List InstanceId) : Except TopologyError Matching :=
  match ids.head?, ids.getLast? with
  | some first, some last => do
    let inputs ← endpoints instances first .input
    let outputs ← endpoints instances last .output
    let inner ← matchPairs instances ids
    pure (Matching.append ⟨[], outputs, inputs⟩ inner)
  | _, _ => pure .empty

/-- Links inside every pipeline. -/
def matchPipelines (instances : InstanceMap) : List Pipeline → Except TopologyError Matching
  | [] => pure .empty
  | pipeline :: pipelines => do
    let first ← matchPipeline instances pipeline.instances
    let others ← matchPipelines instances pipelines
    pure (first.append others)

end InstanceMap

/-- All links, and the pins without a peer: outputs, then inputs. -/
structure Resolution where
  links : List Link
  unresolved : List Endpoint
  deriving DecidableEq

/-- Links the pins of pipelines that stand in order of priority. -/
def InstanceMap.resolve (instances : InstanceMap) (pipelines : List Pipeline) :
    Except TopologyError Resolution := do
  let inner ← matchPipelines instances pipelines
  let between := Matching.firstFit inner.outputs inner.inputs
  pure ⟨inner.links ++ between.links, between.outputs ++ between.inputs⟩

end DspInspector

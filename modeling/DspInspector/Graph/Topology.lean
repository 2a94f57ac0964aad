import DspInspector.Data.Action
import DspInspector.Graph.Link
import DspInspector.Graph.Schedule
import DspInspector.Time.Timestamp

/-!
# Topologies

A topology is one consistent view of the objects of the firmware, with the links between them. The
links are computed from the rest; when an instance is missing nothing changes.
-/

namespace DspInspector

/-- The objects of the firmware and the graph they form. -/
structure Topology where
  capturedAt : Timestamp
  instances : InstanceMap
  gateways : List Gateway
  /-- In order of priority once the links are computed. -/
  pipelines : List Pipeline
  schedules : List CoreSchedule
  links : List Link
  /-- The pins without a peer. -/
  unresolved : List Endpoint
  /-- The instances at each gateway. -/
  gatewayPeers : OrderedMap UInt32 (List InstanceId)

namespace Topology

/-- A topology without links. Each instance is found under its own id; of two with one id the later
one counts. -/
def of (capturedAt : Timestamp) (instances : List InstanceProps) (gateways : List Gateway)
    (pipelines : List Pipeline) (schedules : List CoreSchedule) : Topology where
  capturedAt
  instances := .ofList (instances.map fun props => (props.id, props))
  gateways
  pipelines
  schedules
  links := []
  unresolved := []
  gatewayPeers := .empty

/-- A topology without objects. -/
def empty (capturedAt : Timestamp) : Topology := of capturedAt [] [] [] []

/-- The props of an instance that has to be there. -/
def instanceProps (topology : Topology) (id : InstanceId) : Except TopologyError InstanceProps :=
  InstanceMap.props topology.instances id

/-- The ids of the pipelines in order. -/
def pipelineOrder (topology : Topology) : List UInt32 := topology.pipelines.map (·.id)

/-- The pipelines by ascending priority; those of one priority keep their order. -/
def byPriority (pipelines : List Pipeline) : List Pipeline :=
  pipelines.mergeSort fun a b => a.priority ≤ b.priority

/-- The instances with a gateway on one side. -/
def attached (instances : InstanceMap) (gateway : ConnectorId) : List InstanceId :=
  (instances.values.filter fun props =>
    props.inputGateway == gateway || props.outputGateway == gateway).map (·.id)

/-- The instances at each listed gateway. -/
def peers (instances : InstanceMap) (gateways : List Gateway) : OrderedMap UInt32 (List InstanceId) :=
  .ofList (gateways.map fun gateway => (gateway.id.raw, attached instances gateway.id))

/-- Sorts the pipelines and computes links and peers. -/
def computeLinks (topology : Topology) : Except TopologyError Topology := do
  let pipelines := byPriority topology.pipelines
  let resolution ← topology.instances.resolve pipelines
  pure { topology with
    pipelines
    links := resolution.links
    unresolved := resolution.unresolved
    gatewayPeers := peers topology.instances topology.gateways }

/-- Computes the links of a topology where it stands: first all links are found, then the fields are set. -/
def relink : Action TopologyError Topology Unit := do
  let topology ← get
  let pipelines := byPriority topology.pipelines
  let resolution ← Action.ofExcept (topology.instances.resolve pipelines)
  modify fun topology =>
    { topology with pipelines, links := resolution.links, unresolved := resolution.unresolved }
  modify fun topology => { topology with gatewayPeers := peers topology.instances topology.gateways }

end Topology

end DspInspector

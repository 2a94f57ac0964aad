import DspInspector.Control.Connection
import DspInspector.Graph.Topology

/-!
# Snapshots

A topology is acquired by asking for the pipelines, the schedulers of each core, the gateways, and
then every module instance that a pipeline or a task refers to, once each. The first failure ends
the acquisition.
-/

namespace DspInspector.Snapshot

variable {σ : Type}

/-- The ids that pipelines and tasks refer to, in ascending order, each once. -/
def referenced (pipelines : List Pipeline) (schedules : List CoreSchedule) : List InstanceId :=
  let ids := pipelines.flatMap (·.instances) ++ schedules.flatMap (·.instances)
  (OrderedMap.ofList (ids.map fun id => (id, ()))).keys

/-- Asks for the schedulers of `count` cores, one after the other, from a core on. -/
def schedulesFrom (transport : Transport σ) : (count : Nat) → (core : UInt32) →
    Action Fault σ (List CoreSchedule)
  | 0, _ => pure []
  | count + 1, core => do
    let schedule ← Connection.coreSchedule transport core
    let others ← schedulesFrom transport count (core + 1)
    pure (schedule :: others)

/-- Asks for everything and computes the links. -/
def acquire (connection : Connection) (transport : Transport σ) (capturedAt : Timestamp) :
    Action Fault σ Topology := do
  let ids ← Action.mapError (Fault.inContext "Unable to list pipelines") <|
    connection.pipelineIds transport
  let pipelines ← ids.mapM (Connection.pipelineProps transport)
  let schedules ← schedulesFrom transport connection.limits.cores.toNat 0
  let gateways ← Action.mapError (Fault.inContext "Unable to list gateways") <|
    connection.gateways transport
  let instances ← (referenced pipelines schedules).mapM (Connection.instanceProps transport)
  match (Topology.of capturedAt instances gateways pipelines schedules).computeLinks with
  | .ok topology => pure topology
  | .error cause => throw (.topology cause)

end DspInspector.Snapshot

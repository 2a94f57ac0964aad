import DspInspector.Module.Id

/-!
# Pipelines

A pipeline runs module instances one after the other; its priority decides in which order pipelines
are looked at when their pins are linked.
-/

namespace DspInspector

/-- The properties of a pipeline. -/
structure Pipeline where
  id : UInt32
  priority : UInt32
  state : UInt32
  totalMemoryBytes : UInt32
  usedMemoryBytes : UInt32
  contextPages : UInt32
  /-- In processing order. -/
  instances : List InstanceId
  llTasks : List UInt32
  dpTasks : List UInt32
  deriving DecidableEq

namespace Pipeline

/-- A pipeline without memory figures or tasks. -/
def bare (id priority : UInt32) (instances : List InstanceId) : Pipeline where
  id
  priority
  state := 0
  totalMemoryBytes := 0
  usedMemoryBytes := 0
  contextPages := 0
  instances
  llTasks := []
  dpTasks := []

instance : Wire Pipeline :=
  Wire.via
    (fun (id, priority, state, totalMemoryBytes, usedMemoryBytes, contextPages, instances, llTasks,
        dpTasks) =>
      { id, priority, state, totalMemoryBytes, usedMemoryBytes, contextPages, instances, llTasks,
        dpTasks })
    (fun pipeline => (pipeline.id, pipeline.priority, pipeline.state, pipeline.totalMemoryBytes,
      pipeline.usedMemoryBytes, pipeline.contextPages, pipeline.instances, pipeline.llTasks,
      pipeline.dpTasks))

/-- The size of a list of `count` pipeline ids. -/
def idListSize (count : Nat) : Nat := 4 + count * 4

end Pipeline

end DspInspector

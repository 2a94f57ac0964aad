import DspInspector.Module.Id

/-!
# Schedules

Each core has schedulers, each scheduler tasks, and each task runs module instances.
-/

namespace DspInspector

/-- A task and the instances it runs. -/
structure ScheduledTask where
  id : UInt32
  instances : List InstanceId
  deriving DecidableEq

instance : Wire ScheduledTask :=
  Wire.via (fun (id, instances) => ⟨id, instances⟩) (fun task => (task.id, task.instances))

/-- A scheduler of one processing domain. -/
structure Scheduler where
  processingDomain : UInt32
  coreId : UInt32
  tasks : List ScheduledTask
  deriving DecidableEq

instance : Wire Scheduler :=
  Wire.via (fun (processingDomain, coreId, tasks) => ⟨processingDomain, coreId, tasks⟩)
    (fun scheduler => (scheduler.processingDomain, scheduler.coreId, scheduler.tasks))

/-- The schedulers of one core. -/
structure CoreSchedule where
  schedulers : List Scheduler
  deriving DecidableEq

namespace CoreSchedule

instance : Wire CoreSchedule := Wire.via CoreSchedule.mk CoreSchedule.schedulers

/-- Every instance that a task refers to, as they are met. -/
def instances (core : CoreSchedule) : List InstanceId :=
  core.schedulers.flatMap fun scheduler => scheduler.tasks.flatMap (·.instances)

end CoreSchedule

end DspInspector

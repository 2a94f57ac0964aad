import DspInspector.Wire.Basic
import DspInspector.Data.OrderedMap

/-!
# Names of running modules

A running module is named by the id of its type and the number of the instance. On the wire the
instance comes first, so the pair reads as one word with the module id in the high half.
-/

namespace DspInspector

/-- The module id of the base firmware, the target of every global question. -/
def baseFirmwareModule : UInt16 := 0

/-- The instance of the base firmware. -/
def baseFirmwareInstance : UInt16 := 0

/-- A running module instance. -/
structure InstanceId where
  moduleId : UInt16
  instanceId : UInt16
  deriving DecidableEq, Inhabited

namespace InstanceId

/-- The pair as one word, module id in the high half. -/
def toWord (id : InstanceId) : UInt32 := id.moduleId.toUInt32 <<< 16 ||| id.instanceId.toUInt32

/-- The id as it is shown to a person. -/
def text (id : InstanceId) : String := s!"({id.moduleId.toNat},{id.instanceId.toNat})"

/-- Ids are ordered by module, then by instance. -/
instance : Ranked InstanceId where
  rank id := id.moduleId.toNat * 65536 + id.instanceId.toNat
  rank_injective a b same := by
    have := a.instanceId.toNat_lt
    have := b.instanceId.toNat_lt
    have modules : a.moduleId = b.moduleId := UInt16.toNat_inj.mp (by omega)
    have instances : a.instanceId = b.instanceId := UInt16.toNat_inj.mp (by omega)
    cases a
    cases b
    simp_all

instance : Wire InstanceId :=
  Wire.via (fun (instanceId, moduleId) => ⟨moduleId, instanceId⟩) (fun id => (id.instanceId, id.moduleId))

end InstanceId

end DspInspector

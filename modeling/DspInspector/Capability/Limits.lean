import DspInspector.Capability.Firmware
import DspInspector.Capability.Hardware
import DspInspector.Fault

/-!
# Limits

The configuration values that every further question depends on. Without any one of them the
firmware cannot be talked to.
-/

namespace DspInspector

/-- What the firmware says about the number of its objects. -/
structure Limits where
  version : FirmwareVersion
  modules : UInt32
  pipelines : UInt32
  instances : UInt32
  gateways : UInt32
  cores : UInt32
  deriving DecidableEq

namespace Limits

/-- The labels of the values that were not received, in a fixed order. -/
def missing (firmware : FirmwareConfig) (hardware : HardwareConfig) : List String :=
  [(firmware.version.isNone, (Enumeration.coding FirmwareTag.version).label),
    (firmware.modules.isNone, (Enumeration.coding FirmwareTag.modules).label),
    (firmware.maxPipelines.isNone, (Enumeration.coding FirmwareTag.maxPipelines).label),
    (firmware.maxInstances.isNone, (Enumeration.coding FirmwareTag.maxInstances).label),
    (hardware.gateways.isNone, (Enumeration.coding HardwareTag.gateways).label),
    (hardware.cores.isNone, (Enumeration.coding HardwareTag.cores).label)].filterMap
    fun (absent, label) => if absent then some label else none

/-- The limits of a complete configuration. -/
def of (firmware : FirmwareConfig) (hardware : HardwareConfig) : Except FirmwareError Limits :=
  match firmware.version, firmware.modules, firmware.maxPipelines, firmware.maxInstances,
      hardware.gateways, hardware.cores with
  | some version, some modules, some pipelines, some instances, some gateways, some cores =>
    .ok { version, modules, pipelines, instances, gateways, cores }
  | _, _, _, _, _, _ => .error (.incomplete (missing firmware hardware))

/-- At most one measurement per instance and one per core. The sum is kept in a word, and the program stops where the
word cannot hold it. -/
def measurements (limits : Limits) : Except Fault UInt32 :=
  let sum := limits.instances.toNat + limits.cores.toNat
  if sum < UInt32.size then .ok (.ofNat sum) else .error .overflow

variable {limits : Limits}

theorem measurements_of_lt (fits : limits.instances.toNat + limits.cores.toNat < UInt32.size) :
    limits.measurements = .ok (.ofNat (limits.instances.toNat + limits.cores.toNat)) :=
  if_pos fits

theorem measurements_of_le (exceeds : UInt32.size ≤ limits.instances.toNat + limits.cores.toNat) :
    limits.measurements = .error .overflow :=
  if_neg (Nat.not_lt_of_le exceeds)

end Limits

end DspInspector

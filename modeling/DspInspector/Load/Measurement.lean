import DspInspector.Module.Id
import DspInspector.Wire.Coded

/-!
# Cycle measurements

The firmware counts the cycles that each core and each module instance uses.
-/

namespace DspInspector

/-- What the measurement service of the firmware is doing. -/
inductive MeasurementState where
  | disabled
  | stopped
  | started
  | paused
  deriving DecidableEq

instance : Enumeration MeasurementState where
  all := [.disabled, .stopped, .started, .paused]
  coding
    | .disabled => ⟨0, "Disabled", "disabled"⟩
    | .stopped => ⟨1, "Stopped", "stopped"⟩
    | .started => ⟨2, "Started", "started"⟩
    | .paused => ⟨3, "Paused", "paused"⟩

/-- The cycles used by one core or module instance. -/
structure Measurement where
  resource : InstanceId
  /-- Bit 0 tells the power mode, bit 31 that the resource is gone. -/
  details : UInt32
  /-- Peak in thousands of cycles per second. -/
  peak : UInt32
  /-- Average in thousands of cycles per second. -/
  average : UInt32
  deriving DecidableEq

namespace Measurement

/-- A measurement with its two flags packed. -/
def of (resource : InstanceId) (lowPower isRemoved : Bool) (peak average : UInt32) : Measurement where
  resource
  details := (if lowPower then 1 else 0) ||| (if isRemoved then 0x80000000 else 0)
  peak
  average

/-- The resource was in the low-power mode. -/
def lowPower (item : Measurement) : Bool := item.details &&& 1 != 0

/-- The resource is gone. -/
def isRemoved (item : Measurement) : Bool := item.details &&& 0x80000000 != 0

instance : Wire Measurement :=
  Wire.via (fun (resource, details, peak, average) => ⟨resource, details, peak, average⟩)
    (fun item => (item.resource, item.details, item.peak, item.average))

/-- The size of a list of `count` measurements. -/
def listSize (count : Nat) : Nat := 4 + count * 16

end Measurement

end DspInspector

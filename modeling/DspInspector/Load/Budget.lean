import DspInspector.Fault
import DspInspector.Module.Instance

/-!
# Cycle budgets

An instance spends a number of cycles on each chunk of input. How many chunks a second brings follows
from the format of its first input pin and the size of its input buffer.
-/

namespace DspInspector

/-- The thousands of cycles per second that an instance is expected to need. Without an input pin or
an input buffer there is no budget. -/
def InstanceProps.budget (props : InstanceProps) : Except FirmwareError UInt32 :=
  match props.inputPins with
  | [] => .ok 0
  | pin :: _ =>
    if props.inputBufferBytes = 0 then .ok 0
    else if pin.format.bitDepth.toNat % 8 ≠ 0 then .error (.bitDepth props.id)
    else
      let real (n : Nat) : Float := n.toUInt64.toFloat
      let bytesPerSecond := real pin.format.samplingFrequency.toNat * real pin.format.channels.toNat *
        real (pin.format.bitDepth.toNat / 8)
      let thousands := real props.cpc.toNat * bytesPerSecond / real props.inputBufferBytes.toNat / 1000.0
      if thousands > real 0xFFFFFFFF then .error .budgetOverflow
      else .ok thousands.toUInt32

end DspInspector

import DspInspector.Control.CorePower
import DspInspector.Control.Message
import DspInspector.Control.Transport

/-!
# The driver's control entry

Parameter accesses framed as messages on one control entry of the audio driver. The core is kept
awake during each access.
-/

namespace DspInspector

/-- Where the driver is reached. -/
structure ControlEntries where
  control : String
  power : CorePower
  deriving DecidableEq

/-- The entries of a stock driver, with votes for core 0. -/
def ControlEntries.standard : ControlEntries where
  control := "/sys/kernel/debug/snd_soc_skl/modules/set_get_ctrl"
  power := ⟨"/sys/kernel/debug/snd_soc_skl/core_power", 0⟩

/-- A device and the counts of the accesses made through it. -/
structure CountedDevice (δ : Type) where
  device : δ
  stats : AccessStats

namespace DebugFs

variable {δ : Type}

/-- Changes the counts. -/
def count (change : AccessStats → AccessStats) : Action Fault (CountedDevice δ) Unit := fun state =>
  .ok () { state with stats := change state.stats }

/-- An action on the device alone. -/
def onDevice {α : Type} (action : Action Fault δ α) : Action Fault (CountedDevice δ) α :=
  Action.onPart CountedDevice.device (fun device state => { state with device }) action

/-- The device with its counts, for what only needs a device. -/
def counted (device : ControlDevice δ) : ControlDevice (CountedDevice δ) where
  read path request capacity := onDevice (device.read path request capacity)
  write path request := onDevice (device.write path request)

/-- The request that reads a parameter. -/
def queryMessage (target : InstanceId) (parameter : ParameterId) (capacity : Nat) : LargeMessage :=
  .of .get target parameter.raw capacity []

/-- The request that writes a parameter. Enabling an instance has a message of its own. -/
def configureRequest (target : InstanceId) (parameter : ParameterId) (payload : List UInt8) : List UInt8 :=
  if parameter = ParameterId.ofInstance .enable then
    (ShortMessage.of .set target parameter.raw).encode
  else (LargeMessage.of .set target parameter.raw payload.length payload).encode

/-- Reads a parameter. The room for a reply is always the payload limit. -/
def query (entries : ControlEntries) (device : ControlDevice δ) (target : InstanceId)
    (parameter : ParameterId) (capacity : Nat) : Action Fault (CountedDevice δ) (List UInt8) :=
  entries.power.whileAwake (counted device) do
    let message := queryMessage target parameter capacity
    match ← (onDevice (device.read entries.control message.encode payloadLimit)).attempt with
    | .error cause =>
      count AccessStats.recordFailure
      throw (.transport (.controlRead entries.control cause.message))
    | .ok reply =>
      match message.replyPayload reply with
      | .error cause =>
        count AccessStats.recordFailure
        throw (.wire cause)
      | .ok payload =>
        count (·.recordQuery payload.length)
        pure payload

/-- Writes a parameter. -/
def configure (entries : ControlEntries) (device : ControlDevice δ) (target : InstanceId)
    (parameter : ParameterId) (payload : List UInt8) : Action Fault (CountedDevice δ) Unit :=
  entries.power.whileAwake (counted device) do
    let request := configureRequest target parameter payload
    match ← (onDevice (device.write entries.control request)).attempt with
    | .error cause =>
      count AccessStats.recordFailure
      throw (.transport (.controlWrite entries.control cause.message))
    | .ok _ => count AccessStats.recordConfigure

/-- The transport over a device. -/
def transport (entries : ControlEntries) (device : ControlDevice δ) : Transport (CountedDevice δ) where
  query := query entries device
  configure := configure entries device
  stats := CountedDevice.stats

end DebugFs

end DspInspector

import DspInspector.Capability.Firmware
import DspInspector.Capability.Hardware
import DspInspector.Capability.Memory
import DspInspector.Graph.Link
import DspInspector.Graph.Schedule
import DspInspector.Load.Measurement
import DspInspector.Module.Entry
import DspInspector.Tlv.Record

/-!
# Firmware images

Everything that a firmware knows about itself, as values instead of replies.
-/

namespace DspInspector

/-- A firmware with its objects. -/
structure Image where
  version : FirmwareVersion := ⟨0, 0, 0, 0⟩
  maxPipelines : UInt32 := 0
  maxInstances : UInt32 := 0
  cores : UInt32 := 0
  modules : List ModuleEntry := []
  /-- In the order in which the firmware lists them. -/
  pipelines : List Pipeline := []
  /-- By core. -/
  schedules : List CoreSchedule := []
  gateways : List Gateway := []
  instances : InstanceMap := .empty
  measurements : List Measurement := []
  lowPowerMemory : Option BankState := none
  highPowerMemory : Option BankState := none

namespace Image

/-- A firmware without objects. -/
def blank : Image := {}

/-- The firmware configuration as records. -/
def firmwareRecords (image : Image) : List Tlv.Record :=
  [.of (Enumeration.coding FirmwareTag.version).code image.version,
    .of (Enumeration.coding FirmwareTag.modules).code (UInt32.ofNat image.modules.length),
    .of (Enumeration.coding FirmwareTag.maxPipelines).code image.maxPipelines,
    .of (Enumeration.coding FirmwareTag.maxInstances).code image.maxInstances]

/-- The hardware configuration as records. -/
def hardwareRecords (image : Image) : List Tlv.Record :=
  [.of (Enumeration.coding HardwareTag.cores).code image.cores,
    .of (Enumeration.coding HardwareTag.gateways).code (UInt32.ofNat image.gateways.length)]

/-- The memory state as records, one per bank that there is. -/
def memoryRecords (image : Image) : List Tlv.Record :=
  (image.lowPowerMemory.map (.of (Enumeration.coding MemoryTag.lowPower).code)).toList ++
    (image.highPowerMemory.map (.of (Enumeration.coding MemoryTag.highPower).code)).toList

/-- A small board with a playback and a capture pipeline on one core. Playback runs from the host
through two copiers around a gain to the codec link, capture from the microphones through noise
suppression to the host. -/
def demo : Image :=
  let copier : UInt16 := 0
  let gain : UInt16 := 5
  let suppressor : UInt16 := 9
  let pins := List.map (Pin.pcm AudioFormat.standard)
  let bare (moduleId instanceId : UInt16) (inputs outputs : List UInt32) : InstanceProps :=
    { InstanceProps.bare ⟨moduleId, instanceId⟩ with inputPins := pins inputs, outputPins := pins outputs }
  let hostOut := ConnectorId.of (.known .hdaHostOutput) 0
  let linkOut := ConnectorId.of (.known .hdaLinkOutput) 0
  let microphones := ConnectorId.of (.known .dmicLinkInput) 0
  let hostIn := ConnectorId.of (.known .hdaHostInput) 0
  let instances : InstanceMap := .ofList <| List.map (fun props => (props.id, props)) [
    { bare copier 0 [] [0] with inputGateway := hostOut },
    bare gain 0 [0] [1],
    { bare copier 1 [1] [] with outputGateway := linkOut },
    { bare copier 2 [] [2] with inputGateway := microphones },
    bare suppressor 0 [2] [3],
    { bare copier 3 [3] [] with outputGateway := hostIn }]
  let playback : List InstanceId := [⟨copier, 0⟩, ⟨gain, 0⟩, ⟨copier, 1⟩]
  let capture : List InstanceId := [⟨copier, 2⟩, ⟨suppressor, 0⟩, ⟨copier, 3⟩]
  { version := ⟨9, 22, 1, 4323⟩
    maxPipelines := 8
    maxInstances := 16
    cores := 1
    modules := [.named copier (Text.utf8 "copier"), .named gain (Text.utf8 "gain"),
      .named suppressor (Text.utf8 "ns")]
    pipelines := [.bare 1 0 playback, .bare 2 0 capture]
    schedules := [⟨[⟨0, 0, [⟨1, playback⟩, ⟨2, capture⟩]⟩]⟩]
    gateways := [⟨hostOut, 0⟩, ⟨linkOut, 0⟩, ⟨microphones, 0⟩, ⟨hostIn, 0⟩]
    instances
    measurements := instances.keys.map fun id => .of id false false 1200 800
    lowPowerMemory := some ⟨12, [0x3], [0xFFFF, 0x00FF]⟩
    highPowerMemory := none }

end Image

end DspInspector

import DspInspector.Module.Id
import DspInspector.Module.AudioFormat
import DspInspector.Graph.Gateway

/-!
# Module instances and their pins

What the firmware reports about a running module: its memory and cycle figures, its input and output
pins, and the gateways that feed or drain it.
-/

namespace DspInspector

/-- What kind of stream passes a pin. -/
inductive StreamType where
  | pcm
  | mp3
  | aac
  deriving DecidableEq

instance : Enumeration StreamType where
  all := [.pcm, .mp3, .aac]
  coding
    | .pcm => ⟨0, "Pcm", "PCM"⟩
    | .mp3 => ⟨1, "Mp3", "MP3"⟩
    | .aac => ⟨2, "Aac", "AAC"⟩

/-- An input or output of a module instance. Two pins on one queue are connected. -/
structure Pin where
  streamType : Coded StreamType
  format : AudioFormat
  queueId : UInt32
  deriving DecidableEq

namespace Pin

/-- The queue id of a pin that is connected to nothing. -/
def noQueue : UInt32 := 0xFFFFFFFF

/-- A plain audio pin on a queue. -/
def pcm (format : AudioFormat) (queueId : UInt32) : Pin := ⟨.known .pcm, format, queueId⟩

/-- True when the pin is on a queue. -/
def isConnected (pin : Pin) : Bool := pin.queueId != noQueue

instance : Wire Pin :=
  Wire.via (fun (streamType, format, queueId) => ⟨streamType, format, queueId⟩)
    (fun pin => (pin.streamType, pin.format, pin.queueId))

end Pin

/-- The properties of a running module. -/
structure InstanceProps where
  id : InstanceId
  dpQueueType : UInt32
  queueAlignment : UInt32
  cpUsageMask : UInt32
  stackBytes : UInt32
  bssTotalBytes : UInt32
  bssUsedBytes : UInt32
  inputBufferBytes : UInt32
  outputBufferBytes : UInt32
  /-- Cycles per chunk. -/
  cpc : UInt32
  cpcPeak : UInt32
  inputPins : List Pin
  outputPins : List Pin
  inputGateway : ConnectorId
  outputGateway : ConnectorId
  deriving DecidableEq

namespace InstanceProps

/-- An instance without pins, gateways or figures. -/
def bare (id : InstanceId) : InstanceProps where
  id
  dpQueueType := 0
  queueAlignment := 0
  cpUsageMask := 0
  stackBytes := 0
  bssTotalBytes := 0
  bssUsedBytes := 0
  inputBufferBytes := 0
  outputBufferBytes := 0
  cpc := 0
  cpcPeak := 0
  inputPins := []
  outputPins := []
  inputGateway := ConnectorId.absent
  outputGateway := ConnectorId.absent

instance : Wire InstanceProps :=
  Wire.via
    (fun (id, dpQueueType, queueAlignment, cpUsageMask, stackBytes, bssTotalBytes, bssUsedBytes,
        inputBufferBytes, outputBufferBytes, cpc, cpcPeak, inputPins, outputPins, inputGateway,
        outputGateway) =>
      { id, dpQueueType, queueAlignment, cpUsageMask, stackBytes, bssTotalBytes, bssUsedBytes,
        inputBufferBytes, outputBufferBytes, cpc, cpcPeak, inputPins, outputPins, inputGateway,
        outputGateway })
    (fun props => (props.id, props.dpQueueType, props.queueAlignment, props.cpUsageMask,
      props.stackBytes, props.bssTotalBytes, props.bssUsedBytes, props.inputBufferBytes,
      props.outputBufferBytes, props.cpc, props.cpcPeak, props.inputPins, props.outputPins,
      props.inputGateway, props.outputGateway))

end InstanceProps

end DspInspector

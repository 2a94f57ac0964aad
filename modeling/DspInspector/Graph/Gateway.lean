import DspInspector.Wire.Coded

/-!
# Gateways

Audio enters and leaves the DSP through gateways. A connector id names one: eight bits of index and
five bits of connector class. One id is set aside for "no gateway".
-/

namespace DspInspector

/-- What a gateway connects the DSP to, and in which direction. -/
inductive ConnectorClass where
  | hdaHostOutput
  | hdaHostInput
  | hdaHostInout
  | hdaLinkOutput
  | hdaLinkInput
  | hdaLinkInout
  | dmicLinkInput
  | i2sLinkOutput
  | i2sLinkInput
  | slimbusLinkOutput
  | slimbusLinkInput
  | alhLinkOutput
  | alhLinkInput
  deriving DecidableEq

instance : Enumeration ConnectorClass where
  all := [.hdaHostOutput, .hdaHostInput, .hdaHostInout, .hdaLinkOutput, .hdaLinkInput, .hdaLinkInout,
    .dmicLinkInput, .i2sLinkOutput, .i2sLinkInput, .slimbusLinkOutput, .slimbusLinkInput,
    .alhLinkOutput, .alhLinkInput]
  coding
    | .hdaHostOutput => ⟨0, "HdaHostOutput", "hda-host-out-gateway"⟩
    | .hdaHostInput => ⟨1, "HdaHostInput", "hda-host-in-gateway"⟩
    | .hdaHostInout => ⟨2, "HdaHostInout", "hda-host-inout-gateway"⟩
    | .hdaLinkOutput => ⟨8, "HdaLinkOutput", "hda-link-out-gateway"⟩
    | .hdaLinkInput => ⟨9, "HdaLinkInput", "hda-link-in-gateway"⟩
    | .hdaLinkInout => ⟨10, "HdaLinkInout", "hda-link-inout-gateway"⟩
    | .dmicLinkInput => ⟨11, "DmicLinkInput", "dmic-link-in-gateway"⟩
    | .i2sLinkOutput => ⟨12, "I2sLinkOutput", "i2s-link-out-gateway"⟩
    | .i2sLinkInput => ⟨13, "I2sLinkInput", "i2s-link-in-gateway"⟩
    | .slimbusLinkOutput => ⟨14, "SlimbusLinkOutput", "slimbus-link-out-gateway"⟩
    | .slimbusLinkInput => ⟨15, "SlimbusLinkInput", "slimbus-link-in-gateway"⟩
    | .alhLinkOutput => ⟨16, "AlhLinkOutput", "alh-link-out-gateway"⟩
    | .alhLinkInput => ⟨17, "AlhLinkInput", "alh-link-in-gateway"⟩

/-- The id of a gateway. -/
structure ConnectorId where
  raw : UInt32
  deriving DecidableEq

namespace ConnectorId

/-- The id that stands for "no gateway". -/
def absent : ConnectorId := ⟨0xFFFFFFFF⟩

instance : Inhabited ConnectorId := ⟨absent⟩

/-- The id of the gateway with a class and an index in that class. -/
def of (connector : Coded ConnectorClass) (index : UInt8) : ConnectorId :=
  ⟨(connector.raw &&& 0x1F) <<< 8 ||| index.toUInt32⟩

/-- True of every id but the one that is set aside. -/
def isValid (id : ConnectorId) : Bool := id != absent

/-- The index of the gateway in its class. -/
def index (id : ConnectorId) : UInt8 := (id.raw &&& 0xFF).toUInt8

/-- The class of the gateway. -/
def connector (id : ConnectorId) : Coded ConnectorClass := Coded.ofRaw ((id.raw >>> 8) &&& 0x1F)

/-- The id as it is shown to a person. -/
def text (id : ConnectorId) : String :=
  if id.isValid then s!"{id.connector.text}#{id.index.toNat}" else "ConnectorNodeId(INVALID)"

instance : Wire ConnectorId := Wire.via ConnectorId.mk ConnectorId.raw

end ConnectorId

/-- One gateway that the firmware lists. -/
structure Gateway where
  id : ConnectorId
  attributes : UInt32
  deriving DecidableEq

namespace Gateway

/-- True when the buffer is taken from low-power memory. -/
def inLowPowerMemory (gateway : Gateway) : Bool := gateway.attributes &&& 1 != 0

instance : Wire Gateway :=
  Wire.via (fun (id, attributes) => ⟨id, attributes⟩) (fun gateway => (gateway.id, gateway.attributes))

/-- The size of a list of `count` gateways. -/
def listSize (count : Nat) : Nat := 4 + count * 8

end Gateway

end DspInspector

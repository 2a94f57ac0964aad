import DspInspector.Wire.Coded
import DspInspector.Tlv.Dictionary

/-!
# Hardware configuration

The firmware describes the hardware it runs on in a list of tagged records. Every value may be
missing.
-/

namespace DspInspector

/-- The tags of the hardware configuration. -/
inductive HardwareTag where
  | cavsVersion
  | cores
  | pageBytes
  | physicalPages
  | i2sCapabilities
  | gpdmaCapabilities
  | gateways
  | highPowerBanks
  | lowPowerBanks
  | bankBytes
  deriving DecidableEq

instance : Enumeration HardwareTag where
  all := [.cavsVersion, .cores, .pageBytes, .physicalPages, .i2sCapabilities, .gpdmaCapabilities,
    .gateways, .highPowerBanks, .lowPowerBanks, .bankBytes]
  coding
    | .cavsVersion => ⟨0, "CavsVersion", "cavs version"⟩
    | .cores => ⟨1, "DspCores", "dsp cores"⟩
    | .pageBytes => ⟨2, "MemPageBytes", "memory page bytes"⟩
    | .physicalPages => ⟨3, "TotalPhysMemPages", "total physical memory pages"⟩
    | .i2sCapabilities => ⟨4, "I2sCaps", "i2s capabilities"⟩
    | .gpdmaCapabilities => ⟨5, "GpdmaCaps", "gpdma capabilities"⟩
    | .gateways => ⟨6, "GatewayCount", "gateway count"⟩
    | .highPowerBanks => ⟨7, "HpEbbCount", "hp ebb count"⟩
    | .lowPowerBanks => ⟨8, "LpEbbCount", "lp ebb count"⟩
    | .bankBytes => ⟨9, "EbbSizeBytes", "ebb size bytes"⟩

/-- The serial audio controllers. -/
structure I2sCapabilities where
  version : UInt32
  controllerAddresses : List UInt32
  deriving DecidableEq, Inhabited

instance : Wire I2sCapabilities :=
  Wire.via (fun (version, controllerAddresses) => ⟨version, controllerAddresses⟩)
    (fun caps => (caps.version, caps.controllerAddresses))

/-- The general-purpose DMA controllers. -/
structure GpdmaCapabilities where
  lowPowerGateways : List UInt32
  highPowerGateways : List UInt32
  deriving DecidableEq, Inhabited

instance : Wire GpdmaCapabilities :=
  Wire.via (fun (lowPowerGateways, highPowerGateways) => ⟨lowPowerGateways, highPowerGateways⟩)
    (fun caps => (caps.lowPowerGateways, caps.highPowerGateways))

/-- The hardware configuration; a value is `none` until it is received. -/
structure HardwareConfig where
  cavsVersion : Option UInt32 := none
  cores : Option UInt32 := none
  pageBytes : Option UInt32 := none
  physicalPages : Option UInt32 := none
  i2sCapabilities : Option I2sCapabilities := none
  gpdmaCapabilities : Option GpdmaCapabilities := none
  gateways : Option UInt32 := none
  highPowerBanks : Option UInt32 := none
  lowPowerBanks : Option UInt32 := none
  bankBytes : Option UInt32 := none
  deriving DecidableEq

namespace HardwareConfig

/-- Nothing received. -/
def empty : HardwareConfig := {}

/-- A slot for a number. -/
def count (get : HardwareConfig → Option UInt32) (set : Option UInt32 → HardwareConfig → HardwareConfig) :
    Tlv.Slot HardwareConfig :=
  .scalar inferInstance ⟨get, set⟩

/-- The slot of each tag. -/
def slot : HardwareTag → Tlv.Slot HardwareConfig
  | .cavsVersion => count cavsVersion fun v config => { config with cavsVersion := v }
  | .cores => count cores fun v config => { config with cores := v }
  | .pageBytes => count pageBytes fun v config => { config with pageBytes := v }
  | .physicalPages => count physicalPages fun v config => { config with physicalPages := v }
  | .i2sCapabilities =>
    .scalar inferInstance ⟨i2sCapabilities, fun v config => { config with i2sCapabilities := v }⟩
  | .gpdmaCapabilities =>
    .scalar inferInstance ⟨gpdmaCapabilities, fun v config => { config with gpdmaCapabilities := v }⟩
  | .gateways => count gateways fun v config => { config with gateways := v }
  | .highPowerBanks => count highPowerBanks fun v config => { config with highPowerBanks := v }
  | .lowPowerBanks => count lowPowerBanks fun v config => { config with lowPowerBanks := v }
  | .bankBytes => count bankBytes fun v config => { config with bankBytes := v }

/-- Every tag with its slot. -/
def dictionary : Tlv.Dictionary HardwareConfig :=
  ⟨Enumeration.all.map fun tag => ((Enumeration.coding tag).code, slot tag)⟩

end HardwareConfig

end DspInspector

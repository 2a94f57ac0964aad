import DspInspector.Proofs.Tlv.Fields
import DspInspector.Proofs.Wire.Verbatim

/-!
# The tagged responses of the firmware

The two configurations and the memory state have one field for each of their tags (`fields`), and a value of each is
one record for each field that was received (`records`). Every value is found again in a list of its records, in
whatever order they come and whatever else is between them.
-/

namespace DspInspector

open Tlv Wire

namespace Tlv

variable {κ α : Type} [Enumeration κ] [Wire α]

/-- The record of a value under its tag, if there is a value. -/
def optional (tag : κ) (value : Option α) : List Record :=
  ((value.map Wire.write).map (.mk (Enumeration.coding tag).code)).toList

/-- The record of a list under its tag: its members without a count. The empty list has none. -/
def listing (tag : κ) (values : List α) : List Record :=
  ((if values.isEmpty then none else some (values.flatMap Wire.write)).map (.mk (Enumeration.coding tag).code)).toList

theorem Fields.own_eq {σ : Type} (fields : Fields κ σ) (value : σ) :
    fields.own value = List.flatten ((Enumeration.all : List κ).map fun tag =>
      let kind := fields.kind tag
      ((kind.bytes? (kind.content value)).map (.mk (Enumeration.coding tag).code)).toList) := by
  rw [own, List.filterMap_eq_flatMap_toList, List.flatMap]

/-- The same for a dictionary that is given slot by slot and records that are given one by one. -/
theorem Fields.unpack_records_of {σ : Type} (fields : Fields κ σ) {dictionary : Dictionary σ}
    (same : registered fields.registrations = dictionary) {value : σ} {own records : List Record}
    (whole : own = fields.own value) (travels : ∀ tag, (fields.kind tag).Travels ((fields.kind tag).content value))
    (mixed : Mixed (codes κ) own records) (previous : σ) :
    Unpacking.all dictionary (.start dictionary previous (writeAll records)) =
      (strange (codes κ) records, ⟨value, []⟩) := by
  subst same whole
  exact fields.unpack_mixed mixed travels previous

end Tlv

theorem consuming_of_size {α : Type} [Wire α] [Verbatim α] [measured : Measured α] {n : Nat}
    (declared : Wire.size α = some (n + 1)) : Decoder.Consuming (Wire.read : Decoder α) := by
  intro bytes value rest read
  have stood := (Verbatim.of_read read).1
  rw [stood, List.length_append, measured.length_write declared]
  omega

/-! ## Firmware configuration -/

attribute [ext] FirmwareConfig HardwareConfig MemoryState

namespace FirmwareConfig

/-- The records of a configuration, one for each value that is there. -/
def records (config : FirmwareConfig) : List Record := List.flatten [
  optional FirmwareTag.version config.version,
  optional FirmwareTag.memoryReclaimed config.memoryReclaimed,
  optional FirmwareTag.slowClock config.slowClockHz,
  optional FirmwareTag.fastClock config.fastClockHz,
  listing FirmwareTag.dmaBuffers config.dmaBuffers,
  optional FirmwareTag.alhSupport config.alhSupportLevel,
  optional FirmwareTag.downlinkMailbox config.downlinkMailboxBytes,
  optional FirmwareTag.uplinkMailbox config.uplinkMailboxBytes,
  optional FirmwareTag.traceLog config.traceLogBytes,
  optional FirmwareTag.maxPipelines config.maxPipelines,
  optional FirmwareTag.maxAstates config.maxAstates,
  optional FirmwareTag.maxModulePins config.maxModulePins,
  optional FirmwareTag.modules config.modules,
  optional FirmwareTag.maxInstances config.maxInstances,
  optional FirmwareTag.maxLlTasksPerPriority config.maxLlTasksPerPriority,
  optional FirmwareTag.llPriorities config.llPriorities,
  optional FirmwareTag.maxDpTasks config.maxDpTasks,
  optional FirmwareTag.maxLibraries config.maxLibraries]

def number (get : FirmwareConfig → Option UInt32) (set : Option UInt32 → FirmwareConfig → FirmwareConfig) :
    Kind FirmwareConfig :=
  .scalar inferInstance ⟨get, set⟩

def kind : FirmwareTag → Kind FirmwareConfig
  | .version => .scalar inferInstance ⟨version, fun v config => { config with version := v }⟩
  | .memoryReclaimed => number memoryReclaimed fun v config => { config with memoryReclaimed := v }
  | .slowClock => number slowClockHz fun v config => { config with slowClockHz := v }
  | .fastClock => number fastClockHz fun v config => { config with fastClockHz := v }
  | .dmaBuffers => .sequence inferInstance ⟨dmaBuffers, fun v config => { config with dmaBuffers := v }⟩
  | .alhSupport => number alhSupportLevel fun v config => { config with alhSupportLevel := v }
  | .downlinkMailbox => number downlinkMailboxBytes fun v config => { config with downlinkMailboxBytes := v }
  | .uplinkMailbox => number uplinkMailboxBytes fun v config => { config with uplinkMailboxBytes := v }
  | .traceLog => number traceLogBytes fun v config => { config with traceLogBytes := v }
  | .maxPipelines => number maxPipelines fun v config => { config with maxPipelines := v }
  | .maxAstates => number maxAstates fun v config => { config with maxAstates := v }
  | .maxModulePins => number maxModulePins fun v config => { config with maxModulePins := v }
  | .modules => number modules fun v config => { config with modules := v }
  | .maxInstances => number maxInstances fun v config => { config with maxInstances := v }
  | .maxLlTasksPerPriority => number maxLlTasksPerPriority fun v config => { config with maxLlTasksPerPriority := v }
  | .llPriorities => number llPriorities fun v config => { config with llPriorities := v }
  | .maxDpTasks => number maxDpTasks fun v config => { config with maxDpTasks := v }
  | .maxLibraries => number maxLibraries fun v config => { config with maxLibraries := v }

def fields : Fields FirmwareTag FirmwareConfig where
  kind := kind
  listed tag := by cases tag <;> decide
  distinct := by decide
  sound tag := by
    cases tag with
    | dmaBuffers => exact ⟨consuming_of_size (n := 7) rfl, fun _ _ => rfl⟩
    | _ => exact fun _ _ => rfl
  apart one two different := by
    cases one <;> cases two <;> first | exact absurd rfl different | exact fun _ _ => rfl
  whole one two same := FirmwareConfig.ext (same .version) (same .memoryReclaimed) (same .slowClock) (same .fastClock)
    (same .dmaBuffers) (same .alhSupport) (same .downlinkMailbox) (same .uplinkMailbox) (same .traceLog)
    (same .maxPipelines) (same .maxAstates) (same .maxModulePins) (same .modules) (same .maxInstances)
    (same .maxLlTasksPerPriority) (same .llPriorities) (same .maxDpTasks) (same .maxLibraries)

theorem registered_fields : registered fields.registrations = dictionary := fields.registered_eq

theorem records_eq (config : FirmwareConfig) : records config = fields.own config := by
  rw [fields.own_eq]
  rfl

theorem travels (config : FirmwareConfig) (tag : FirmwareTag) :
    (fields.kind tag).Travels ((fields.kind tag).content config) := by
  cases tag with
  | dmaBuffers => exact Kind.travels_sequence (n := 7) rfl
  | _ => exact Kind.travels_scalar fun value _ => Faithful.echoed value

end FirmwareConfig

/-! ## Hardware configuration -/

namespace HardwareConfig

/-- The records of a configuration, one for each value that is there. -/
def records (config : HardwareConfig) : List Record := List.flatten [
  optional HardwareTag.cavsVersion config.cavsVersion,
  optional HardwareTag.cores config.cores,
  optional HardwareTag.pageBytes config.pageBytes,
  optional HardwareTag.physicalPages config.physicalPages,
  optional HardwareTag.i2sCapabilities config.i2sCapabilities,
  optional HardwareTag.gpdmaCapabilities config.gpdmaCapabilities,
  optional HardwareTag.gateways config.gateways,
  optional HardwareTag.highPowerBanks config.highPowerBanks,
  optional HardwareTag.lowPowerBanks config.lowPowerBanks,
  optional HardwareTag.bankBytes config.bankBytes]

def number (get : HardwareConfig → Option UInt32) (set : Option UInt32 → HardwareConfig → HardwareConfig) :
    Kind HardwareConfig :=
  .scalar inferInstance ⟨get, set⟩

def kind : HardwareTag → Kind HardwareConfig
  | .cavsVersion => number cavsVersion fun v config => { config with cavsVersion := v }
  | .cores => number cores fun v config => { config with cores := v }
  | .pageBytes => number pageBytes fun v config => { config with pageBytes := v }
  | .physicalPages => number physicalPages fun v config => { config with physicalPages := v }
  | .i2sCapabilities =>
    .scalar inferInstance ⟨i2sCapabilities, fun v config => { config with i2sCapabilities := v }⟩
  | .gpdmaCapabilities =>
    .scalar inferInstance ⟨gpdmaCapabilities, fun v config => { config with gpdmaCapabilities := v }⟩
  | .gateways => number gateways fun v config => { config with gateways := v }
  | .highPowerBanks => number highPowerBanks fun v config => { config with highPowerBanks := v }
  | .lowPowerBanks => number lowPowerBanks fun v config => { config with lowPowerBanks := v }
  | .bankBytes => number bankBytes fun v config => { config with bankBytes := v }

def fields : Fields HardwareTag HardwareConfig where
  kind := kind
  listed tag := by cases tag <;> decide
  distinct := by decide
  sound tag := by cases tag <;> exact fun _ _ => rfl
  apart one two different := by
    cases one <;> cases two <;> first | exact absurd rfl different | exact fun _ _ => rfl
  whole one two same := HardwareConfig.ext (same .cavsVersion) (same .cores) (same .pageBytes) (same .physicalPages)
    (same .i2sCapabilities) (same .gpdmaCapabilities) (same .gateways) (same .highPowerBanks) (same .lowPowerBanks)
    (same .bankBytes)

theorem registered_fields : registered fields.registrations = dictionary := fields.registered_eq

theorem records_eq (config : HardwareConfig) : records config = fields.own config := by
  rw [fields.own_eq]
  rfl

theorem travels (config : HardwareConfig) (tag : HardwareTag) :
    (fields.kind tag).Travels ((fields.kind tag).content config) := by
  cases tag with
  | i2sCapabilities =>
    refine Kind.travels_scalar fun caps fits => I2sCapabilities.echoed ?_
    exact fits_of_fits_write (n := 3) rfl (fits_of_fits_append fits).2
  | gpdmaCapabilities =>
    refine Kind.travels_scalar fun caps fits => GpdmaCapabilities.echoed ?_
    obtain ⟨low, high⟩ := fits_of_fits_append fits
    exact ⟨fits_of_fits_write (n := 3) rfl low, fits_of_fits_write (n := 3) rfl high⟩
  | _ => exact Kind.travels_scalar fun value _ => Faithful.echoed value

end HardwareConfig

/-! ## Memory state -/

namespace MemoryState

/-- The records of a memory state, one for each bank that is there. -/
def records (state : MemoryState) : List Record :=
  optional MemoryTag.lowPower state.lowPower ++ optional MemoryTag.highPower state.highPower

def kind : MemoryTag → Kind MemoryState
  | .lowPower => .scalar inferInstance ⟨lowPower, fun v state => { state with lowPower := v }⟩
  | .highPower => .scalar inferInstance ⟨highPower, fun v state => { state with highPower := v }⟩

def fields : Fields MemoryTag MemoryState where
  kind := kind
  listed tag := by cases tag <;> decide
  distinct := by decide
  sound tag := by cases tag <;> exact fun _ _ => rfl
  apart one two different := by
    cases one <;> cases two <;> first | exact absurd rfl different | exact fun _ _ => rfl
  whole one two same := MemoryState.ext (same .lowPower) (same .highPower)

theorem registered_fields : registered fields.registrations = dictionary := fields.registered_eq

theorem records_eq (state : MemoryState) : records state = fields.own state := by
  rw [fields.own_eq, records, ← List.append_nil (optional MemoryTag.highPower _)]
  rfl

theorem travels (state : MemoryState) (tag : MemoryTag) :
    (fields.kind tag).Travels ((fields.kind tag).content state) := by
  have echoed (bank : BankState) (fits : Fits (Wire.write bank)) : Echoed bank := by
    obtain ⟨blocks, pages⟩ := fits_of_fits_append (fits_of_fits_append fits).2
    exact BankState.echoed ⟨fits_of_fits_write (n := 3) rfl blocks, fits_of_fits_write (n := 1) rfl pages⟩
  cases tag <;> exact Kind.travels_scalar echoed

end MemoryState

/-! ## All of them -/

/-- The responses of the firmware that are lists of tagged records. -/
inductive TaggedResponse where
  | firmwareConfig
  | hardwareConfig
  | memoryState

namespace TaggedResponse

@[reducible] def Value : TaggedResponse → Type
  | firmwareConfig => FirmwareConfig
  | hardwareConfig => HardwareConfig
  | memoryState => MemoryState

def dictionary : (response : TaggedResponse) → Dictionary response.Value
  | firmwareConfig => FirmwareConfig.dictionary
  | hardwareConfig => HardwareConfig.dictionary
  | memoryState => MemoryState.dictionary

/-- The codes of the tags that the response knows. -/
def tags : TaggedResponse → List UInt32
  | firmwareConfig => codes FirmwareTag
  | hardwareConfig => codes HardwareTag
  | memoryState => codes MemoryTag

def records : (response : TaggedResponse) → response.Value → List Record
  | firmwareConfig => FirmwareConfig.records
  | hardwareConfig => HardwareConfig.records
  | memoryState => MemoryState.records

/-- Whatever was received before: a list of the records of a value, in any order and with records of unknown tags
anywhere between them, is unpacked into this value, and all that is complained about is each of the unknown tags. -/
theorem unpack_response (response : TaggedResponse) (value previous : response.Value) (records : List Record)
    (mixed : Mixed response.tags (response.records value) records) :
    Unpacking.all response.dictionary (.start response.dictionary previous (writeAll records)) =
      (strange response.tags records, ⟨value, []⟩) := by
  cases response with
  | firmwareConfig =>
    exact FirmwareConfig.fields.unpack_records_of FirmwareConfig.registered_fields (FirmwareConfig.records_eq value)
      (FirmwareConfig.travels value) mixed previous
  | hardwareConfig =>
    exact HardwareConfig.fields.unpack_records_of HardwareConfig.registered_fields (HardwareConfig.records_eq value)
      (HardwareConfig.travels value) mixed previous
  | memoryState =>
    exact MemoryState.fields.unpack_records_of MemoryState.registered_fields (MemoryState.records_eq value)
      (MemoryState.travels value) mixed previous

/-- Two cores, five gateways and two serial controllers. -/
def sampleConfig : HardwareConfig :=
  { cores := some 2, gateways := some 5, i2sCapabilities := some ⟨1, [0x1000, 0x2000]⟩ }

/-- The gateways come first, and between the others there are a record of no use and an empty one. -/
def sampleMixture : List Record :=
  [.of 6 (5 : UInt32), .of 99 (0 : UInt32), .of 4 (I2sCapabilities.mk 1 [0x1000, 0x2000]), ⟨77, []⟩, .of 1 (2 : UInt32)]

theorem unpack_sampleMixture :
    Mixed (tags hardwareConfig) (records hardwareConfig sampleConfig) sampleMixture ∧
      Unpacking.all HardwareConfig.dictionary
        (.start HardwareConfig.dictionary { bankBytes := some 7, cores := some 9 } (writeAll sampleMixture)) =
        ([.unknownTag 99, .unknownTag 77], ⟨sampleConfig, []⟩) := by
  have mixed : Mixed (tags hardwareConfig) (records hardwareConfig sampleConfig) sampleMixture := by
    refine ⟨by decide, ?_⟩
    show ∀ record ∈ sampleMixture, record.value.length < UInt32.size
    decide
  exact ⟨mixed, unpack_response hardwareConfig sampleConfig _ sampleMixture mixed⟩

end TaggedResponse

end DspInspector

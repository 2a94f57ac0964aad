import DspInspector.Capability.Limits
import DspInspector.Control.Image
import DspInspector.Proofs.Tlv.Unpacking
import DspInspector.Proofs.Wire.RoundTrip
import DspInspector.Proofs.Wire.Sizes

/-!
# Records of written values

A record that carries a written value is filed under its tag, so a response that a firmware composed from its
values is unpacked into the same values: the two configurations and the memory state of an image come back as
they are.
-/

namespace DspInspector

namespace Tlv

open Wire

variable {σ α : Type} {dictionary : Dictionary σ} {tag : UInt32}

/-- The record of a value that is echoed puts the value into its field. -/
theorem file_of [format : Wire α] [measured : Measured α] {field : Field σ (Option α)}
    (found : dictionary.find? tag = some (.scalar format field)) {value : α} (echoed : Echoed value) (fields : σ) :
    dictionary.file (.of tag value) fields = settle none (field.set (some value) fields) := by
  have accepts : (Slot.scalar format field).accepts (Wire.write value).length = true := by
    show format.size.all (· == (Wire.write value).length) = true
    cases declared : format.size with
    | none => rfl
    | some n => exact beq_iff_eq.mpr (measured.length_write declared value).symm
  have read := echoed []
  rw [List.append_nil] at read
  have stores : (Slot.scalar format field).store (Wire.write value) fields =
      .ok () (field.set (some value) fields) := by
    simp only [Slot.scalar, read]
  simp only [Dictionary.file, Record.of, found, accepts, if_true, stores, settle]

/-- Unpacking goes through the records of echoed values one by one. -/
theorem fields_all_cons [format : Wire α] [Measured α] {field : Field σ (Option α)}
    (found : dictionary.find? tag = some (.scalar format field)) {value : α} (echoed : Echoed value)
    (fits : Fits (Wire.write value)) (fields : σ) (records : List Record) :
    (Unpacking.all dictionary ⟨fields, writeAll (.of tag value :: records)⟩).2.fields =
      (Unpacking.all dictionary ⟨field.set (some value) fields, writeAll records⟩).2.fields := by
  rw [writeAll_cons, Unpacking.all_record dictionary fits (file_of found echoed fields)]

/-- A record that may be missing fills its field or leaves it empty. -/
theorem fields_all_optional [format : Wire α] [Measured α] {field : Field σ (Option α)}
    (found : dictionary.find? tag = some (.scalar format field)) {value : Option α}
    (echoed : ∀ some ∈ value, Echoed some) (fits : ∀ some ∈ value, Fits (Wire.write some)) {fields : σ}
    (empty : field.set none fields = fields) (records : List Record) :
    (Unpacking.all dictionary ⟨fields, writeAll ((value.map (Record.of tag)).toList ++ records)⟩).2.fields =
      (Unpacking.all dictionary ⟨field.set value fields, writeAll records⟩).2.fields := by
  cases value with
  | none =>
    rw [empty]
    rfl
  | some value => exact fields_all_cons found (echoed value rfl) (fits value rfl) fields records

theorem length_le_writeAll {records : List Record} {record : Record} (member : record ∈ records) :
    record.value.length ≤ (writeAll records).length := by
  induction records with
  | nil => cases member
  | cons first records ih =>
    rw [writeAll_cons, List.length_append]
    rcases List.mem_cons.mp member with rfl | later
    · rw [Record.length_write]
      omega
    · have := ih later
      omega

theorem fields_all_nil (fields : σ) : (Unpacking.all dictionary ⟨fields, writeAll []⟩).2.fields = fields := by
  show (Unpacking.all dictionary ⟨fields, []⟩).2.fields = fields
  rw [Unpacking.all_nil]

/-- What a response is unpacked into, when nothing was received before. -/
def received (dictionary : Dictionary σ) (nothing : σ) (records : List Record) : σ :=
  (Unpacking.all dictionary (.start dictionary nothing (writeAll records))).2.fields

end Tlv

/-! ## The tags of the three responses -/

theorem FirmwareConfig.find?_code (tag : FirmwareTag) :
    FirmwareConfig.dictionary.find? (Enumeration.coding tag).code = some (FirmwareConfig.slot tag) := by
  cases tag <;> rfl

theorem HardwareConfig.find?_code (tag : HardwareTag) :
    HardwareConfig.dictionary.find? (Enumeration.coding tag).code = some (HardwareConfig.slot tag) := by
  cases tag <;> rfl

theorem MemoryState.find?_code (tag : MemoryTag) :
    MemoryState.dictionary.find? (Enumeration.coding tag).code = some (MemoryState.slot tag) := by
  cases tag <;> rfl

namespace Image

open Tlv Wire

variable (image : Image)

/-- The firmware configuration, as far as an image has it. -/
def firmwareConfig : FirmwareConfig where
  version := some image.version
  modules := some (UInt32.ofNat image.modules.length)
  maxPipelines := some image.maxPipelines
  maxInstances := some image.maxInstances

/-- The hardware configuration, as far as an image has it. -/
def hardwareConfig : HardwareConfig where
  cores := some image.cores
  gateways := some (UInt32.ofNat image.gateways.length)

/-- The memory state of an image. -/
def memoryState : MemoryState := ⟨image.lowPowerMemory, image.highPowerMemory⟩

/-- What the firmware says about the number of its objects. -/
def limits : Limits where
  version := image.version
  modules := UInt32.ofNat image.modules.length
  pipelines := image.maxPipelines
  instances := image.maxInstances
  gateways := UInt32.ofNat image.gateways.length
  cores := image.cores

theorem limits_of_configs : Limits.of image.firmwareConfig image.hardwareConfig = .ok image.limits := rfl

/-- A value of a few bytes fits into a record. -/
theorem fits_of_measured {α : Type} [Wire α] [measured : Measured α] {n : Nat} (declared : Wire.size α = some n)
    (small : n < UInt32.size) (value : α) : Fits (Wire.write value) := by
  rw [Fits, measured.length_write declared]
  exact small

theorem received_firmwareRecords :
    received FirmwareConfig.dictionary .empty image.firmwareRecords = image.firmwareConfig := by
  have word (value : UInt32) : Fits (Wire.write value) := fits_of_measured (n := 4) rfl (by decide) value
  have version : Fits (Wire.write image.version) := fits_of_measured (n := 8) rfl (by decide) image.version
  have cleared : FirmwareConfig.dictionary.clear .empty = .empty := rfl
  rw [received, Unpacking.start, cleared, firmwareRecords,
    fields_all_cons (FirmwareConfig.find?_code .version) (Faithful.echoed _) version,
    fields_all_cons (FirmwareConfig.find?_code .modules) (Faithful.echoed _) (word _),
    fields_all_cons (FirmwareConfig.find?_code .maxPipelines) (Faithful.echoed _) (word _),
    fields_all_cons (FirmwareConfig.find?_code .maxInstances) (Faithful.echoed _) (word _), fields_all_nil]
  rfl

theorem received_hardwareRecords :
    received HardwareConfig.dictionary .empty image.hardwareRecords = image.hardwareConfig := by
  have word (value : UInt32) : Fits (Wire.write value) := fits_of_measured (n := 4) rfl (by decide) value
  have cleared : HardwareConfig.dictionary.clear .empty = .empty := rfl
  rw [received, Unpacking.start, cleared, hardwareRecords,
    fields_all_cons (HardwareConfig.find?_code .cores) (Faithful.echoed _) (word _),
    fields_all_cons (HardwareConfig.find?_code .gateways) (Faithful.echoed _) (word _), fields_all_nil]
  rfl

/-- A bank that is missing has no record, and its field stays empty. -/
theorem received_memoryRecords (lowPower : ∀ bank ∈ image.lowPowerMemory, bank.Canonical)
    (highPower : ∀ bank ∈ image.highPowerMemory, bank.Canonical)
    (small : (writeAll image.memoryRecords).length ≤ payloadLimit) :
    received MemoryState.dictionary .empty image.memoryRecords = image.memoryState := by
  have cleared : MemoryState.dictionary.clear .empty = .empty := rfl
  have fits (record : Record) (member : record ∈ image.memoryRecords) : Fits record.value :=
    Nat.lt_of_le_of_lt (Nat.le_trans (length_le_writeAll member) small) (by decide)
  have lowFits : ∀ bank ∈ image.lowPowerMemory, Fits (Wire.write bank) := by
    intro bank present
    refine fits (.of (Enumeration.coding MemoryTag.lowPower).code bank) (List.mem_append_left _ ?_)
    rw [Option.mem_def.mp present]
    exact List.mem_cons_self
  have highFits : ∀ bank ∈ image.highPowerMemory, Fits (Wire.write bank) := by
    intro bank present
    refine fits (.of (Enumeration.coding MemoryTag.highPower).code bank) (List.mem_append_right _ ?_)
    rw [Option.mem_def.mp present]
    exact List.mem_cons_self
  have last : image.memoryRecords =
      (image.lowPowerMemory.map (.of (Enumeration.coding MemoryTag.lowPower).code)).toList ++
        ((image.highPowerMemory.map (.of (Enumeration.coding MemoryTag.highPower).code)).toList ++ []) := by
    rw [List.append_nil, memoryRecords]
  rw [received, Unpacking.start, cleared, last,
    fields_all_optional (MemoryState.find?_code .lowPower)
      (fun bank present => BankState.echoed (lowPower bank present)) lowFits rfl,
    fields_all_optional (MemoryState.find?_code .highPower)
      (fun bank present => BankState.echoed (highPower bank present)) highFits rfl, fields_all_nil]
  rfl

end Image

end DspInspector

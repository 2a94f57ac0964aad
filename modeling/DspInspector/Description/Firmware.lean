import DspInspector.Capability.Firmware
import DspInspector.Capability.Hardware
import DspInspector.Capability.Memory
import DspInspector.Json.Read
import DspInspector.Module.Entry

/-!
# Descriptions of firmware objects

Modules, memory banks and capabilities out of documents. Bytes inside a description are read by a
reader that the caller chooses.
-/

namespace DspInspector

/-- A value of an enumeration, described by its code. -/
def Coded.ofDocument {κ : Type} [Enumeration κ] : Reader (Coded κ) := fun document =>
  return .ofRaw (← document.asWord)

/-- A version of the firmware. -/
def FirmwareVersion.ofDocument : Reader FirmwareVersion := fun document =>
  return ⟨← document.halfAt "major", ← document.halfAt "minor", ← document.halfAt "hotfix",
    ← document.halfAt "build"⟩

/-- The sizes of a DMA buffer. -/
def DmaBuffer.ofDocument : Reader DmaBuffer := fun document =>
  return ⟨← document.wordAt "min_size_bytes", ← document.wordAt "max_size_bytes"⟩

/-- The serial audio controllers. -/
def I2sCapabilities.ofDocument : Reader I2sCapabilities := fun document =>
  return ⟨← document.wordAt "version", ← document.listAt Document.asWord "controller_base_addr"⟩

/-- The general-purpose DMA controllers. -/
def GpdmaCapabilities.ofDocument : Reader GpdmaCapabilities := fun document =>
  return ⟨← document.listAt Document.asWord "lp_gateways", ← document.listAt Document.asWord "hp_gateways"⟩

/-- The use of a bank. -/
def BankState.ofDocument : Reader BankState := fun document =>
  return ⟨← document.wordAt "free_phys_mem_pages", ← document.listAt Document.asWord "ebb_states",
    (← document.listAt Document.asWord "page_alloc").map (·.toUInt16)⟩

/-- A segment. -/
def Segment.ofDocument : Reader Segment := fun document =>
  return ⟨⟨← document.wordAt "flags"⟩, ← document.wordAt "v_base_addr", ← document.wordAt "file_offset"⟩

/-- A module entry, with its name as a text or as the eight bytes of its field. -/
def ModuleEntry.ofDocument (bytes : Reader (List UInt8)) : Reader ModuleEntry := fun document => do
  let named := ModuleEntry.named (← document.halfAt "module_id") (Text.utf8 (← document.textAt "name"))
  let nameBytes ← document.memberOr "name_bytes" named.nameBytes fun name => do
    let given ← bytes name
    pure (Vector.ofFn fun i => given.getD i 0)
  let hash ← document.memberOr "hash" named.hash fun hash => return ⟨← bytes hash⟩
  pure { named with
    stateFlags := ← document.halfAt "state_flags"
    nameBytes
    uuid := ← (document.member "uuid").asVector 4 0 Document.asWord
    moduleType := ⟨← document.wordAt "module_type"⟩
    hash
    entryPoint := ← document.wordAt "entry_point"
    configOffset := ← document.halfAt "cfg_offset"
    configCount := ← document.halfAt "cfg_count"
    affinityMask := ← document.wordAt "affinity_mask"
    instanceMaxCount := ← document.halfAt "instance_max_count"
    instanceStackSize := ← document.halfAt "instance_stack_size"
    segments := ← (document.member "segments").asVector 3 default Segment.ofDocument }

end DspInspector

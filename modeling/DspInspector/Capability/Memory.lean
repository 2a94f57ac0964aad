import DspInspector.Wire.Coded
import DspInspector.Tlv.Dictionary

/-!
# Memory state

How the two banks of on-chip memory are used.
-/

namespace DspInspector

/-- The tags of the memory state. -/
inductive MemoryTag where
  | lowPower
  | highPower
  deriving DecidableEq

instance : Enumeration MemoryTag where
  all := [.lowPower, .highPower]
  coding
    | .lowPower => ⟨0, "LpsramState", "lpsram state"⟩
    | .highPower => ⟨1, "HpsramState", "hpsram state"⟩

/-- The use of one bank. The entries of both lists are sets of bits, one after the other. -/
structure BankState where
  freePages : UInt32
  blockStates : List UInt32
  pageAllocation : List UInt16
  deriving DecidableEq, Inhabited

instance : Wire BankState :=
  Wire.via (fun (freePages, blockStates, pageAllocation) => ⟨freePages, blockStates, pageAllocation⟩)
    (fun bank => (bank.freePages, bank.blockStates, bank.pageAllocation))

/-- The use of both banks, as far as it was received. -/
structure MemoryState where
  lowPower : Option BankState := none
  highPower : Option BankState := none
  deriving DecidableEq

namespace MemoryState

/-- Nothing received. -/
def empty : MemoryState := {}

/-- The slot of each tag. -/
def slot : MemoryTag → Tlv.Slot MemoryState
  | .lowPower => .scalar inferInstance ⟨lowPower, fun v state => { state with lowPower := v }⟩
  | .highPower => .scalar inferInstance ⟨highPower, fun v state => { state with highPower := v }⟩

/-- Every tag with its slot. -/
def dictionary : Tlv.Dictionary MemoryState :=
  ⟨Enumeration.all.map fun tag => ((Enumeration.coding tag).code, slot tag)⟩

end MemoryState

end DspInspector

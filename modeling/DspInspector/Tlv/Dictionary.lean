import DspInspector.Tlv.Slot

/-!
# Dictionaries of tags

A dictionary lists the tags that a response may contain, each with its slot. The last registration
of a tag is the one that counts, but every field that was ever registered is emptied when unpacking
starts.
-/

namespace DspInspector.Tlv

/-- Tags with their slots, in the order of registration. -/
structure Dictionary (σ : Type) where
  registrations : List (UInt32 × Slot σ)

namespace Dictionary

variable {σ : Type}

/-- The dictionary without tags. -/
def empty : Dictionary σ := ⟨[]⟩

/-- Adds a tag; its earlier slot, if there is one, no longer receives values. -/
def insert (dictionary : Dictionary σ) (tag : UInt32) (slot : Slot σ) : Dictionary σ :=
  ⟨dictionary.registrations ++ [(tag, slot)]⟩

/-- The slot that receives the values of a tag. -/
def find? (dictionary : Dictionary σ) (tag : UInt32) : Option (Slot σ) :=
  (dictionary.registrations.reverse.find? (·.1 == tag)).map (·.2)

/-- The tag has a slot. -/
def contains (dictionary : Dictionary σ) (tag : UInt32) : Bool := (dictionary.find? tag).isSome

/-- The tags in ascending order, each once. -/
def tags (dictionary : Dictionary σ) : List UInt32 :=
  (dictionary.registrations.map (·.1)).eraseDups.mergeSort

/-- How many tags there are. -/
def size (dictionary : Dictionary σ) : Nat := dictionary.tags.length

/-- Empties every registered field. -/
def clear (dictionary : Dictionary σ) (record : σ) : σ :=
  dictionary.registrations.foldl (fun record registration => registration.2.clear record) record

end Dictionary

end DspInspector.Tlv

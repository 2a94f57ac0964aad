import DspInspector.Wire.Error

/-!
# Failures of unpacking tagged records

Each failure concerns one record only; unpacking goes on with the next.
-/

namespace DspInspector.Tlv

/-- Why the bytes of one record are no value of its field. -/
inductive ValueError where
  | unreadable (cause : WireError)
  /-- A single value ended before its record did. -/
  | leftover
  | element (cause : WireError)
  /-- An element that takes no bytes would be read for ever. -/
  | endless
  deriving DecidableEq

/-- The failure as it is shown to a person. -/
def ValueError.message : ValueError → String
  | .unreadable cause => "Can not read tlv value: " ++ cause.message
  | .leftover => "The value buffer has not been fully consumed"
  | .element cause => "Can not read array element: " ++ cause.message
  | .endless => "Can not read array element: the element takes no bytes"

/-- Why a record was not filed. -/
inductive RecordError where
  /-- The buffer ended inside the record. -/
  | unreadable (cause : WireError)
  | unknownTag (tag : UInt32)
  | badSize (tag : UInt32) (size : Nat)
  | badValue (tag : UInt32) (cause : ValueError)
  deriving DecidableEq

namespace RecordError

/-- The failure as it is shown to a person. -/
def message : RecordError → String
  | .unreadable cause => "Unable to read tlv: " ++ cause.message
  | .unknownTag tag => s!"Cannot parse unknown tag {tag.toNat}"
  | .badSize tag size => s!"Invalid value size {size} for tag {tag.toNat}"
  | .badValue tag cause => s!"Error reading value for tag {tag.toNat}: " ++ cause.message

/-- The tag of the record, when it could be read. -/
def tag? : RecordError → Option UInt32
  | .unreadable _ => none
  | .unknownTag tag => some tag
  | .badSize tag _ => some tag
  | .badValue tag _ => some tag

end RecordError

end DspInspector.Tlv

import DspInspector.Wire.Basic

/-!
# Tagged records

Configuration values travel as a list of records: a tag of four bytes, a length of four bytes, and
that many bytes of value. The list has no count; it ends with the buffer.
-/

namespace DspInspector.Tlv

/-- A tag and the bytes filed under it. -/
structure Record where
  tag : UInt32
  value : List UInt8
  deriving DecidableEq

namespace Record

/-- The record that carries a value in its wire form. -/
def of {α : Type} [Wire α] (tag : UInt32) (value : α) : Record := ⟨tag, Wire.write value⟩

/-- The length field holds the low four bytes of the length. -/
def write (record : Record) : List UInt8 :=
  Wire.write record.tag ++ littleEndian 4 record.value.length ++ record.value

/-- Tag, length and value, each as far as the buffer goes. -/
def read : Decoder Record := do
  let tag ← Wire.read
  let length : UInt32 ← Wire.read
  let value ← Decoder.take length.toNat
  pure ⟨tag, value⟩

theorem length_of_read_ok {bytes rest : List UInt8} {record : Record}
    (success : read bytes = .ok record rest) : rest.length + 8 ≤ bytes.length := by
  simp only [read, bind, EStateM.bind, Wire.read, Decoder.take_eq, pure, EStateM.pure] at success
  grind

theorem rest_of_read_error {bytes rest : List UInt8} {cause : WireError}
    (failure : read bytes = .error cause rest) : rest = [] := by
  simp only [read, bind, EStateM.bind, Wire.read, Decoder.take_eq, pure, EStateM.pure] at failure
  grind

end Record

/-- The wire form of a list of records. -/
def writeAll (records : List Record) : List UInt8 := records.flatMap Record.write

end DspInspector.Tlv

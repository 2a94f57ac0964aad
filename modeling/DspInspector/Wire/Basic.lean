import DspInspector.Wire.Error

/-!
# Wire formats

The firmware exchanges packed little-endian values. A wire format gives, for one type, the reader,
the writer and the size in bytes when no value changes it. Formats are built from three pieces:
words, pairs and counted lists; the format of a record is that of the tuple of its fields in order
(`Wire.via`). A reader turns the bytes ahead into a value and the bytes after it; a reader that runs
out of bytes leaves none.
-/

namespace DspInspector

/-- Reads one value from the bytes ahead of a cursor. On failure the state says where the cursor stopped. -/
abbrev Decoder (α : Type) := EStateM WireError (List UInt8) α

namespace Decoder

/-- The next `n` bytes, or the end of the stream with nothing left to read. -/
def take (n : Nat) : Decoder (List UInt8) := fun bytes =>
  let taken := bytes.take n
  if taken.length = n then .ok taken (bytes.drop n) else .error .endOfStream []

theorem take_eq (n : Nat) (bytes : List UInt8) :
    take n bytes =
      if n ≤ bytes.length then .ok (bytes.take n) (bytes.drop n) else .error .endOfStream [] := by
  unfold take
  by_cases enough : n ≤ bytes.length
  · simp [enough]
  · have short : ¬ min n bytes.length = n := by omega
    simp [enough, short]

/-- Gives up for `reason`, with the cursor where it is. -/
def reject {α : Type} (reason : Malformation) : Decoder α := fun bytes =>
  .error (.invalid reason) bytes

/-- Reads `n` values one after the other. -/
def many {α : Type} (item : Decoder α) : Nat → Decoder (List α)
  | 0 => pure []
  | n + 1 => do
    let first ← item
    let others ← many item n
    pure (first :: others)

/-- Reads exactly `n` values into a vector, the first at index 0. -/
def vector {α : Type} (item : Decoder α) : (n : Nat) → Decoder (Vector α n)
  | 0 => pure #v[]
  | n + 1 => do
    let before ← vector item n
    let last ← item
    pure (before.push last)

end Decoder

/-- The low `width` bytes of a number, least significant first. -/
def littleEndian : (width : Nat) → Nat → List UInt8
  | 0, _ => []
  | width + 1, n => UInt8.ofNat (n % 256) :: littleEndian width (n / 256)

/-- The number whose bytes, least significant first, are given. -/
def ofLittleEndian : List UInt8 → Nat
  | [] => 0
  | byte :: bytes => byte.toNat + 256 * ofLittleEndian bytes

/-- How the values of a type travel. -/
class Wire (α : Type) where
  read : Decoder α
  write : α → List UInt8
  /-- The size of every value in bytes, when they all have the same. -/
  size : Option Nat

namespace Wire

/-- A number of `width` bytes. -/
@[reducible] def word {α : Type} (width : Nat) (ofNat : Nat → α) (toNat : α → Nat) : Wire α where
  read := do
    let bytes ← Decoder.take width
    pure (ofNat (ofLittleEndian bytes))
  write a := littleEndian width (toNat a)
  size := some width

/-- The format of `β`, for values that are `β`s in another arrangement. -/
@[reducible] def via {α β : Type} [format : Wire β] (into : β → α) (outOf : α → β) : Wire α where
  read := do
    let value ← format.read
    pure (into value)
  write a := format.write (outOf a)
  size := format.size

instance : Wire UInt8 := word 1 UInt8.ofNat UInt8.toNat
instance : Wire UInt16 := word 2 UInt16.ofNat UInt16.toNat
instance : Wire UInt32 := word 4 UInt32.ofNat UInt32.toNat
instance : Wire UInt64 := word 8 UInt64.ofNat UInt64.toNat
instance : Wire Int8 := via UInt8.toInt8 Int8.toUInt8
instance : Wire Int16 := via UInt16.toInt16 Int16.toUInt16
instance : Wire Int32 := via UInt32.toInt32 Int32.toUInt32
instance : Wire Int64 := via UInt64.toInt64 Int64.toUInt64

/-- Two values, the first one first. -/
instance {α β : Type} [first : Wire α] [second : Wire β] : Wire (α × β) where
  read := do
    let a ← first.read
    let b ← second.read
    pure (a, b)
  write pair := first.write pair.1 ++ second.write pair.2
  size :=
    match first.size, second.size with
    | some m, some n => some (m + n)
    | _, _ => none

/-- A fixed number of values, without a count. -/
instance {α : Type} {n : Nat} [item : Wire α] : Wire (Vector α n) where
  read := Decoder.vector item.read n
  write values := values.toList.flatMap item.write
  size := item.size.map (· * n)

end Wire

/-- The width of the count in front of a list. -/
inductive CountWidth where
  | one
  | two
  | four
  deriving DecidableEq

/-- The bytes of the count. -/
def CountWidth.bytes : CountWidth → Nat
  | .one => 1
  | .two => 2
  | .four => 4

namespace Wire

/-- A count followed by that many values. The count read is not trusted: values are read one by one. -/
@[reducible] def counted {α : Type} (width : CountWidth) (item : Wire α) : Wire (List α) where
  read := do
    let count ← Decoder.take width.bytes
    Decoder.many item.read (ofLittleEndian count)
  write values := littleEndian width.bytes values.length ++ values.flatMap item.write
  size := none

/-- Every list inside a firmware object has a count of four bytes. -/
instance {α : Type} [item : Wire α] : Wire (List α) := counted .four item

/-- Reads one value from the start of a buffer and ignores what follows it. -/
def decode (α : Type) [format : Wire α] (bytes : List UInt8) : Except WireError α :=
  match format.read bytes with
  | .ok value _ => .ok value
  | .error e _ => .error e

/-- Reads one value that has to span the whole buffer. -/
def decodeExact (α : Type) [format : Wire α] (bytes : List UInt8) : Except WireError α :=
  match format.read bytes with
  | .ok value [] => .ok value
  | .ok _ rest => .error (.invalid (.trailing rest.length))
  | .error e _ => .error e

end Wire

end DspInspector

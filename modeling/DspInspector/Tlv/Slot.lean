import DspInspector.Wire.Basic
import DspInspector.Tlv.Error

/-!
# Slots

A slot ties a tag to a field of the record that a response is unpacked into. It says which sizes of
value it takes, how a value is filed, and how the field is emptied. There are three kinds: a single
value, a list of values, and a value that is expected and thrown away.
-/

namespace DspInspector.Tlv

/-- One field of a record type. -/
structure Field (σ β : Type) where
  get : σ → β
  set : β → σ → σ

/-- What is done with the values of one tag. -/
structure Slot (σ : Type) where
  /-- The sizes of value that may be filed at all. -/
  accepts : Nat → Bool
  /-- Files the bytes of a value. On failure the field may have changed too. -/
  store : List UInt8 → EStateM ValueError σ Unit
  /-- Sets the field to "not received". -/
  clear : σ → σ

/-- Reads values until no byte is left. -/
def elements {α : Type} (read : Decoder α) : List UInt8 → Except ValueError (List α)
  | [] => .ok []
  | byte :: bytes =>
    match read (byte :: bytes) with
    | .error cause _ => .error (.element cause)
    | .ok value rest =>
      if rest.length < (byte :: bytes).length then (elements read rest).map (value :: ·)
      else .error .endless
termination_by bytes => bytes.length
decreasing_by assumption

namespace Slot

variable {σ α : Type}

/-- A single value that has to span its record. A value of fixed size is refused by size alone. -/
def scalar (format : Wire α) (field : Field σ (Option α)) : Slot σ where
  accepts size := format.size.all (· == size)
  store bytes record :=
    match format.read bytes with
    | .error cause _ => .error (.unreadable cause) record
    | .ok value [] => .ok () (field.set (some value) record)
    | .ok _ (_ :: _) => .error .leftover record
  clear := field.set none

/-- A list of values without a count; the list that is not received is the empty one. An empty record
says nothing and is refused, and so is one that does not divide into values of fixed size. -/
def sequence (format : Wire α) (field : Field σ (List α)) : Slot σ where
  accepts size :=
    size != 0 &&
      match format.size with
      | some (n + 1) => size % (n + 1) == 0
      | _ => true
  store bytes record :=
    match elements format.read bytes with
    | .error cause => .error cause (field.set [] record)
    | .ok values => .ok () (field.set values record)
  clear := field.set []

/-- Takes any value and keeps nothing. -/
def ignored : Slot σ where
  accepts _ := true
  store _ record := .ok () record
  clear record := record

end Slot

end DspInspector.Tlv

import DspInspector.Wire.Basic

/-!
# A cursor over a buffer

Several reads in a row share one cursor. It counts the bytes consumed, so that the caller can tell
where each value ended.
-/

namespace DspInspector

/-- A buffer and how much of it has been consumed. -/
structure Cursor where
  buffer : List UInt8
  position : Nat

namespace Cursor

/-- A cursor at the start of a buffer. -/
def start (buffer : List UInt8) : Cursor := ⟨buffer, 0⟩

/-- The bytes not consumed yet. -/
def rest (cursor : Cursor) : List UInt8 := cursor.buffer.drop cursor.position

/-- How many bytes are not consumed yet. -/
def remaining (cursor : Cursor) : Nat := cursor.buffer.length - cursor.position

/-- True once every byte is consumed. -/
def atEnd (cursor : Cursor) : Bool := cursor.buffer.length ≤ cursor.position

/-- The cursor of the same buffer in front of the last bytes `rest`. -/
def before (cursor : Cursor) (rest : List UInt8) : Cursor :=
  { cursor with position := cursor.buffer.length - rest.length }

/-- Reads one value and moves the cursor, also when the read fails. -/
def read {α : Type} (decoder : Decoder α) (cursor : Cursor) : Except WireError α × Cursor :=
  match decoder cursor.rest with
  | .ok value rest => (.ok value, cursor.before rest)
  | .error e rest => (.error e, cursor.before rest)

end Cursor

end DspInspector

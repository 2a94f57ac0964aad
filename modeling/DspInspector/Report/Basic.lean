import DspInspector.Json.Document
import DspInspector.Wire.Coded

/-!
# Documents of simple values
-/

namespace DspInspector

/-- A word as a number. -/
def Document.word (value : UInt32) : Document := .natural value.toNat

/-- Bytes in hexadecimal. -/
def Document.bytes (bytes : List UInt8) : Document := .text (Text.hexBytes bytes)

/-- A list of objects. -/
def Document.listOf {α : Type} (render : α → Document) (items : List α) : Document :=
  .list (items.map render)

/-- A value that may be missing. -/
def Document.optional {α : Type} (render : α → Document) : Option α → Document
  | none => .null
  | some value => render value

/-- A member is its name; an unknown code is an object that holds it. -/
def Coded.document {κ : Type} [Enumeration κ] : Coded κ → Document
  | .known member => .text (Enumeration.coding member).name
  | .unknown raw => .object [("Unknown", .word raw)]

end DspInspector

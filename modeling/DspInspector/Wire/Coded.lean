import DspInspector.Wire.Basic

/-!
# Enumerations

An enumeration of the firmware is a table of codes with names. A code that is not in the table is
kept as it came, so that reading never fails on a newer firmware and nothing is lost on the way
back.
-/

namespace DspInspector

/-- What the table says about one member. -/
structure Coding where
  code : UInt32
  /-- The name in machine-readable output. -/
  name : String
  /-- The name shown to a person. -/
  label : String

/-- A type whose values are the rows of a table of codes. -/
class Enumeration (κ : Type) where
  /-- The members in order. -/
  all : List κ
  coding : κ → Coding

/-- A member of an enumeration, or a code that no member has. -/
inductive Coded (κ : Type) where
  | known (member : κ)
  | unknown (raw : UInt32)
  deriving DecidableEq

namespace Coded

variable {κ : Type} [Enumeration κ]

/-- The value behind a code: the first member that has it. -/
def ofRaw (raw : UInt32) : Coded κ :=
  match (Enumeration.all : List κ).find? (fun member => (Enumeration.coding member).code == raw) with
  | some member => .known member
  | none => .unknown raw

/-- The code of a value. -/
def raw : Coded κ → UInt32
  | .known member => (Enumeration.coding member).code
  | .unknown raw => raw

/-- The name shown to a person, the same for every unknown code. -/
def label : Coded κ → String
  | .known member => (Enumeration.coding member).label
  | .unknown _ => "unknown"

/-- The value in a sentence: an unknown code is given in brackets. -/
def text : Coded κ → String
  | .known member => (Enumeration.coding member).label
  | .unknown raw => s!"unknown ({raw.toNat})"

/-- True of the members. -/
def isKnown : Coded κ → Bool
  | .known _ => true
  | .unknown _ => false

/-- The place of a value: members as the table lists them, then everything unknown. -/
def rank : Coded κ → Nat
  | .known member => (Enumeration.all : List κ).findIdx fun other =>
      (Enumeration.coding other).code == (Enumeration.coding member).code
  | .unknown _ => (Enumeration.all : List κ).length

/-- Order by rank; unknown codes among themselves by number. -/
def order (a b : Coded κ) : Ordering :=
  (compare a.rank b.rank).then <|
    match a, b with
    | .unknown m, .unknown n => compare m n
    | _, _ => .eq

/-- Every enumeration travels as four bytes, whatever its codes would need. -/
instance : Wire (Coded κ) := Wire.via ofRaw raw

end Coded

end DspInspector

import DspInspector.Json.Document
import DspInspector.Text.Hex

/-!
# Reading documents

A value is described by a document. Most members of a description may be left out, and a member that
is null counts as left out. An integer is a number or its decimal text, so that integers beyond the
numbers of other programs can be written down.
-/

namespace DspInspector

/-- What a description should have held and does not. -/
structure DescriptionError where
  expected : String
  deriving DecidableEq, Inhabited

/-- A value out of a description. -/
abbrev Described (α : Type) := Except DescriptionError α

/-- How values of a type are described. -/
abbrev Reader (α : Type) := Document → Described α

namespace Document

/-- True of null. -/
def isNull : Document → Bool
  | .null => true
  | _ => false

/-- The members of an object. -/
def members : Document → List (String × Document)
  | .object members => members
  | _ => []

/-- The member of a name, if there is one, even when it is null. -/
def member? (document : Document) (name : String) : Option Document := document.members.lookup name

/-- The member of a name; null when it is left out. -/
def member (document : Document) (name : String) : Document := (document.member? name).getD .null

/-- The member is not left out. -/
def has (document : Document) (name : String) : Bool := !(document.member name).isNull

/-- An integer. -/
def asInt : Reader Int
  | .number value => .ok value
  | .text digits =>
    match (if digits.startsWith "+" then (digits.drop 1).toString else digits).toInt? with
    | some value => .ok value
    | none => .error ⟨"an integer"⟩
  | _ => .error ⟨"an integer"⟩

/-- A natural number; what is below counts as zero. -/
def asNat : Reader Nat := fun document => return (← document.asInt).toNat

/-- A word. -/
def asWord : Reader UInt32 := fun document => return .ofNat (← document.asNat)

/-- A text. -/
def asText : Reader String
  | .text value => .ok value
  | _ => .error ⟨"a text"⟩

/-- A truth value. -/
def asBool : Reader Bool
  | .boolean value => .ok value
  | _ => .error ⟨"true or false"⟩

/-- The items of a list; null is a list without items. -/
def asItems : Reader (List Document)
  | .null => .ok []
  | .list items => .ok items
  | _ => .error ⟨"a list"⟩

/-- A list of values. -/
def asList {α : Type} (item : Reader α) : Reader (List α) := fun document => do
  (← document.asItems).mapM item

/-- A fixed number of values: a longer list is cut and a shorter one filled up. -/
def asVector {α : Type} (n : Nat) (filler : α) (item : Reader α) : Reader (Vector α n) := fun document => do
  let values ← document.asList item
  pure (Vector.ofFn fun i => values.getD i filler)

/-- A list of two values. -/
def asPair {α β : Type} (first : Reader α) (second : Reader β) : Reader (α × β)
  | .list [a, b] => return (← first a, ← second b)
  | _ => .error ⟨"a pair"⟩

/-- A member, or its default when it is left out. -/
def memberOr {α : Type} (document : Document) (name : String) (missing : α) (reader : Reader α) :
    Described α :=
  match document.member name with
  | .null => .ok missing
  | value => reader value

/-- A natural number, zero when left out. -/
def natAt (document : Document) (name : String) : Described Nat := document.memberOr name 0 asNat

/-- A word, zero when left out. -/
def wordAt (document : Document) (name : String) : Described UInt32 := document.memberOr name 0 asWord

/-- A half word, zero when left out. -/
def halfAt (document : Document) (name : String) : Described UInt16 :=
  return .ofNat (← document.natAt name)

/-- A text, empty when left out. -/
def textAt (document : Document) (name : String) : Described String := document.memberOr name "" asText

/-- A truth value, false when left out. -/
def boolAt (document : Document) (name : String) : Described Bool := document.memberOr name false asBool

/-- A list of values, empty when left out. -/
def listAt {α : Type} (item : Reader α) (document : Document) (name : String) : Described (List α) :=
  (document.member name).asList item

/-- A change of an old value: it stays where nothing is said of it, and null brings its default back. -/
def change {α : Type} (document : Document) (name : String) (old default : α) (reader : Reader α) :
    Described α :=
  match document.member? name with
  | none => .ok old
  | some .null => .ok default
  | some value => reader value

/-- A value that may be missing. -/
def asOptional {α : Type} (reader : Reader α) : Reader (Option α)
  | .null => .ok none
  | document => return some (← reader document)

/-- The bytes of pairs of hexadecimal digits of either case. -/
def bytesOfHex : List Char → Described (List UInt8)
  | [] => .ok []
  | high :: low :: digits =>
    match Text.hexValue? high, Text.hexValue? low with
    | some high, some low => return .ofNat (16 * high + low) :: (← bytesOfHex digits)
    | _, _ => .error ⟨"hexadecimal digits"⟩
  | [_] => .error ⟨"hexadecimal digits in pairs"⟩

end Document

end DspInspector

import DspInspector.Description.Firmware
import DspInspector.Report.Facts

/-!
# Wire types as values

A program that is told the name of a type at run time needs its wire format in a form that does not
depend on the type. A value is then what can be seen of it: its document, its facts and its bytes.
-/

namespace DspInspector

/-- What can be seen of a value of some wire type. -/
structure WireValue where
  document : Document
  facts : Option (List (String × Document))
  bytes : List UInt8

namespace WireValue

/-- A value with its wire format. -/
def of {α : Type} [Wire α] (document : α → Document) (facts : Option (α → List (String × Document)))
    (value : α) : WireValue where
  document := document value
  facts := facts.map (· value)
  bytes := Wire.write value

/-- The value as an object. -/
def summary (value : WireValue) : Document :=
  .object [("value", value.document), ("extra", .optional .object value.facts),
    ("hex", .bytes value.bytes)]

end WireValue

/-- A wire format and how its values are described. -/
structure WireType where
  wire : Wire WireValue
  ofDocument : Reader WireValue

namespace WireType

/-- The format of a type, with the facts of its values if there are any. -/
def make {α : Type} [format : Wire α] (ofDocument : Reader α) (document : α → Document)
    (facts : Option (α → List (String × Document))) : WireType where
  wire := {
    read := do
      let value ← format.read
      pure (WireValue.of document facts value)
    write := WireValue.bytes
    size := format.size }
  ofDocument description := return WireValue.of document facts (← ofDocument description)

/-- A type whose values have no facts. -/
def plain {α : Type} [Wire α] (ofDocument : Reader α) (document : α → Document) : WireType :=
  make ofDocument document none

/-- A type whose values have facts. -/
def withFacts {α : Type} [Wire α] (ofDocument : Reader α) (document : α → Document)
    (facts : α → List (String × Document)) : WireType :=
  make ofDocument document (some facts)

/-- Integers that are shown as numbers. -/
def number {α : Type} [Wire α] (ofInt : Int → α) (toInt : α → Int) : WireType :=
  plain (fun document => return ofInt (← document.asInt)) (fun value => .number (toInt value))

/-- Integers that are shown as texts, since they may exceed the numbers of other programs. -/
def wideNumber {α : Type} [Wire α] (ofInt : Int → α) (toInt : α → Int) : WireType :=
  plain (fun document => return ofInt (← document.asInt)) (fun value => .text (toString (toInt value)))

/-- A list that is the only member of an object. -/
def listUnder {α : Type} [Wire α] (name : String) (ofDocument : Reader α) (document : α → Document) :
    WireType :=
  plain (fun description => description.listAt ofDocument name)
    (fun values => .object [(name, .listOf document values)])

/-- A fixed number of values. -/
def array {α : Type} [Wire α] (n : Nat) (filler : α) (ofDocument : Reader α) (document : α → Document) :
    WireType :=
  plain (Document.asVector n filler ofDocument) (fun values => .listOf document values.toList)

end WireType

/-- An enumeration as a table that does not depend on its type. -/
structure EnumerationTable where
  /-- The document, the code and the label of each member, in order. -/
  rows : List Document
  wireType : WireType
  /-- Compares the values behind two codes. -/
  order : UInt32 → UInt32 → Ordering

/-- The table of a type. -/
def EnumerationTable.of (κ : Type) [Enumeration κ] : EnumerationTable where
  rows := (Enumeration.all : List κ).map fun member =>
    let value := Coded.known member
    .list [value.document, .word value.raw, .text value.label]
  wireType := .withFacts (Coded.ofDocument : Reader (Coded κ)) Coded.document Coded.facts
  order a b := (Coded.ofRaw a : Coded κ).order (Coded.ofRaw b)

end DspInspector

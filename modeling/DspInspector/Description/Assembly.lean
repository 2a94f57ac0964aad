import DspInspector.Description.Catalogue
import DspInspector.Tlv.Record

/-!
# Assembled bytes

Bytes are described by how they are put together: from digits, values of wire types, tagged records,
texts and fillings, one after the other, cut and patched. Values may hold assembled bytes themselves.
-/

namespace DspInspector

mutual

/-- How deep a document is nested. -/
def Document.depth : Document → Nat
  | .list items => Document.depthOfItems items + 1
  | .object members => Document.depthOfMembers members + 1
  | _ => 1

/-- The depth of the deepest item. -/
def Document.depthOfItems : List Document → Nat
  | [] => 0
  | item :: items => max item.depth (Document.depthOfItems items)

/-- The depth of the deepest member. -/
def Document.depthOfMembers : List (String × Document) → Nat
  | [] => 0
  | (_, value) :: members => max value.depth (Document.depthOfMembers members)

end

namespace Assembly

/-- A value of a named type. -/
def value (bytes : Reader (List UInt8)) (type : String) (description : Document) :
    Described (List UInt8) := do
  return (← (← WireType.named bytes type).ofDocument description).bytes

/-- A record: its tag, and the type and the description of its value. -/
def record (bytes : Reader (List UInt8)) : Reader (List UInt8)
  | .list [tag, type, description] =>
    return (Tlv.Record.mk (← tag.asWord) (← value bytes (← type.asText) description)).write
  | _ => .error ⟨"a record"⟩

/-- The bytes of a description that is nested less deep than a limit. -/
def bytesWithin : (limit : Nat) → Reader (List UInt8)
  | _, .null => .ok []
  | 0, _ => .error ⟨"less nesting"⟩
  | _ + 1, .text digits => Document.bytesOfHex digits.toList
  | limit + 1, .list parts => return (← parts.mapM (bytesWithin limit)).flatten
  | limit + 1, document => do
    let bytes := bytesWithin limit
    if document.has "type" then value bytes (← document.textAt "type") (document.member "value")
    else if document.has "tlv" then return (← document.listAt (record bytes) "tlv").flatten
    else if document.has "fill" then
      return List.replicate (← document.natAt "len") (.ofNat (← document.natAt "fill"))
    else if document.has "text" then return Text.utf8 (← document.textAt "text")
    else if document.has "cut" then return (← bytes (document.member "cut")).take (← document.natAt "len")
    else
      let whole ← bytes (document.member "patch")
      let start ← document.natAt "at"
      let patch ← bytes (document.member "with")
      return whole.take start ++ patch ++ whole.drop (start + patch.length)

/-- The bytes of a description. -/
def bytes : Reader (List UInt8) := fun document => bytesWithin document.depth document

end Assembly

/-- A member that describes bytes; no bytes when it is left out. -/
def Document.bytesAt (document : Document) (name : String) : Described (List UInt8) :=
  Assembly.bytes (document.member name)

end DspInspector

import DspInspector.Text.Hex

/-!
# JSON documents

The values that the program prints, and their text over several lines: two spaces per level, one
member to a line, and empty lists and objects on one line.
-/

namespace DspInspector

/-- A document. The members of an object stand in the order in which they are printed. -/
inductive Document where
  | null
  | boolean (value : Bool)
  | number (value : Int)
  | text (value : String)
  | list (items : List Document)
  | object (members : List (String × Document))

namespace Document

/-- One character inside a text. -/
def escapedChar (c : Char) : List Char :=
  if c = '"' || c = '\\' then ['\\', c]
  else if c = '\x08' then ['\\', 'b']
  else if c = '\x0c' then ['\\', 'f']
  else if c = '\n' then ['\\', 'n']
  else if c = '\r' then ['\\', 'r']
  else if c = '\t' then ['\\', 't']
  else if c.toNat < 32 then '\\' :: 'u' :: Text.hexPadded false 4 c.toNat
  else [c]

/-- A text with its quotes. -/
def quoted (text : String) : String :=
  String.ofList ('"' :: text.toList.flatMap escapedChar ++ ['"'])

/-- A new line at a level. -/
def newline (level : Nat) : String := "\n" ++ String.ofList (List.replicate (2 * level) ' ')

mutual

/-- The text of a document that starts at a level. -/
def pretty (level : Nat) : Document → String
  | .null => "null"
  | .boolean true => "true"
  | .boolean false => "false"
  | .number value => toString value
  | .text value => quoted value
  | .list [] => "[]"
  | .list (item :: items) =>
    "[" ++ newline (level + 1) ++ pretty (level + 1) item ++ prettyItems level items ++ "]"
  | .object [] => "\x7b\x7d"
  | .object ((name, value) :: members) =>
    "\x7b" ++ newline (level + 1) ++ quoted name ++ ": " ++ pretty (level + 1) value ++
      prettyMembers level members ++ "\x7d"

/-- The items of a list after the first one. -/
def prettyItems (level : Nat) : List Document → String
  | [] => newline level
  | item :: items => "," ++ newline (level + 1) ++ pretty (level + 1) item ++ prettyItems level items

/-- The members of an object after the first one. -/
def prettyMembers (level : Nat) : List (String × Document) → String
  | [] => newline level
  | (name, value) :: members =>
    "," ++ newline (level + 1) ++ quoted name ++ ": " ++ pretty (level + 1) value ++
      prettyMembers level members

end

/-- A number that is not negative. -/
def natural (value : Nat) : Document := .number value

end Document

end DspInspector

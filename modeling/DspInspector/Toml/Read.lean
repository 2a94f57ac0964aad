import DspInspector.Toml.Moment
import DspInspector.Toml.Tree

/-!
# Reading documents

A document is a list of lines: comments, assignments, and headers that open a table. Names and values
may only be nested to a certain depth.
-/

namespace DspInspector.Toml

/-- Names have fewer parts than this, and values are nested less deep. -/
def nestingLimit : Nat := 80

/-- A character of a name that is not quoted. -/
def isBare (c : Char) : Bool :=
  ('a' ≤ c && c ≤ 'z') || ('A' ≤ c && c ≤ 'Z') || c.isDigit || c == '-' || c == '_'

/-- A part of a name. -/
def simpleName : Scanner String :=
  basicString <|> literalString <|> (do
    let first ← Scanner.one isBare
    let others ← Scanner.run isBare
    pure (String.ofList (first :: others)))

/-- A dotted name. -/
def name : Scanner (List String) := do
  let parts ← Scanner.separated
    (do
      blanks
      let part ← simpleName
      blanks
      pure part)
    (Scanner.char '.')
  if parts.length < nestingLimit then pure parts else failure

/-- An array whose items are found by a scanner. -/
def array (item : Scanner Value) : Scanner Value := do
  Scanner.char '['
  let items ← Scanner.optional do
    let items ← Scanner.separated
      (do
        gap
        let value ← item
        gap
        pure value)
      (Scanner.char ',')
    let _ ← Scanner.optional (Scanner.char ',')
    pure items
  gap
  Scanner.char ']'
  pure (.array (items.getD []))

/-- A table on one line whose values are found by a scanner. -/
def inlineTable (item : Scanner Value) : Scanner Value := do
  Scanner.char '{'
  let pairs ← Scanner.optional <| Scanner.separated
    (do
      let names ← name
      Scanner.char '='
      blanks
      let value ← item
      blanks
      pure (Statement.assign names value))
    (Scanner.char ',')
  blanks
  Scanner.char '}'
  tableOf (pairs.getD [])

/-- A value that is not made of other values. -/
def simpleValue : Scanner Value :=
  (do let text ← string; pure (.string text)) <|>
    (do let text ← moment; pure (.moment text)) <|>
    (do let text ← float; pure (.float text)) <|>
    (do let value ← integer; pure (.integer value)) <|>
    (do Scanner.word "true"; pure (.boolean true)) <|>
    (do Scanner.word "false"; pure (.boolean false))

/-- A value that is nested at most `depth` deep. -/
def value : (depth : Nat) → Scanner Value
  | 0 => simpleValue
  | depth + 1 => simpleValue <|> array (value depth) <|> inlineTable (value depth)

/-- An assignment. -/
def assignment : Scanner Statement := do
  let names ← name
  Scanner.char '='
  blanks
  let value ← value (nestingLimit - 1)
  trailing
  pure (.assign names value)

/-- A header. -/
def header : Scanner Statement := do
  Scanner.char '['
  match ← Scanner.optional (Scanner.char '[') with
  | none =>
    let path ← name
    Scanner.char ']'
    trailing
    pure (.openTable path)
  | some _ =>
    let path ← name
    Scanner.word "]]"
    trailing
    pure (.openNext path)

/-- A line, which may have no statement. -/
def line : Scanner (Option Statement) := do
  let statement ← match ← Scanner.ahead with
    | some '#' => do
      comment
      lineEnd
      pure none
    | some '[' => do
      let statement ← header
      pure (some statement)
    | some '\n' => do
      newline
      pure none
    | some '\r' => do
      newline
      pure none
    | some _ => do
      let statement ← assignment
      pure (some statement)
    | none => failure
  blanks
  pure statement

/-- The statements of a document, which may begin with a byte order mark. -/
def statements : Scanner (List Statement) := do
  let _ ← Scanner.optional (Scanner.one (·.toNat == 0xFEFF))
  blanks
  let lines ← Scanner.many line
  pure (lines.filterMap id)

/-- The table that a text describes; none when the text is not well-formed. -/
def read (text : String) : Option Value :=
  match statements text.toList with
  | some (found, []) => tableOf found
  | _ => none

end DspInspector.Toml

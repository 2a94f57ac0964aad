/-!
# Scanners

A scanner takes a value off the front of a text, or fails. Everything here fails without a reason:
whoever scans a text only wants to know whether it is well-formed.
-/

namespace DspInspector.Toml

/-- Takes a value off the front of a text and leaves the rest of the text. -/
abbrev Scanner (α : Type) := StateT (List Char) Option α

namespace Scanner

variable {α β : Type}

/-- The next character, which stays where it is; none at the end. -/
def ahead : Scanner (Option Char) := fun text => some (text.head?, text)

/-- The next character, if it is of a kind. -/
def one (kind : Char → Bool) : Scanner Char
  | [] => none
  | c :: text => if kind c then some (c, text) else none

/-- A certain character. -/
def char (c : Char) : Scanner Unit := do
  let _ ← one (· == c)

/-- A certain word. -/
def word (wanted : String) : Scanner Unit := fun text =>
  if wanted.toList.isPrefixOf text then some ((), text.drop wanted.toList.length) else none

/-- As many characters of a kind as there are. -/
def run (kind : Char → Bool) : Scanner (List Char) := fun text => some (text.span kind)

/-- Exactly `n` characters of a kind. -/
def times (kind : Char → Bool) : (n : Nat) → Scanner (List Char)
  | 0 => pure []
  | n + 1 => do
    let c ← one kind
    let others ← times kind n
    pure (c :: others)

/-- What a scanner finds, or nothing where it fails. -/
def optional (scanner : Scanner α) : Scanner (Option α) := fun text =>
  match scanner text with
  | some (value, rest) => some (some value, rest)
  | none => some (none, text)

/-- What the scanner finds as often as it succeeds, at most `limit` times. -/
def upTo (scanner : Scanner α) : (limit : Nat) → Scanner (List α)
  | 0 => pure []
  | limit + 1 => fun text =>
    match scanner text with
    | none => some ([], text)
    | some (value, rest) => (do
      let values ← upTo scanner limit
      pure (value :: values)) rest

/-- What the scanner finds as often as it succeeds. A scanner that takes at least one character each
time cannot succeed more often than there are characters. -/
def many (scanner : Scanner α) : Scanner (List α) := fun text => upTo scanner text.length text

/-- One value or more with separators in between; a separator without a value after it stays. -/
def separated (scanner : Scanner α) (separator : Scanner Unit) : Scanner (List α) := do
  let first ← scanner
  let others ← many do
    separator
    scanner
  pure (first :: others)

end Scanner

/-- Blanks on a line. -/
def isBlank (c : Char) : Bool := c == ' ' || c == '\t'

/-- Characters of a comment: everything but controls other than the tab. -/
def isCommentChar (c : Char) : Bool := c == '\t' || 0x20 ≤ c.toNat

/-- Blanks. -/
def blanks : Scanner Unit := do
  let _ ← Scanner.run isBlank

/-- The end of a line: a line feed, with or without a carriage return. -/
def newline : Scanner Unit := Scanner.word "\n" <|> Scanner.word "\r\n"

/-- A comment, without the end of its line. -/
def comment : Scanner Unit := do
  Scanner.char '#'
  let _ ← Scanner.run isCommentChar

/-- The end of a line or of the text. -/
def lineEnd : Scanner Unit := fun text => if text.isEmpty then some ((), text) else newline text

/-- What may follow a statement on its line. -/
def trailing : Scanner Unit := do
  blanks
  let _ ← Scanner.optional comment
  lineEnd

/-- Blanks, comments and line ends. -/
def gap : Scanner Unit := do
  let _ ← Scanner.many <| (do let _ ← Scanner.one isBlank) <|> newline <|> comment

end DspInspector.Toml

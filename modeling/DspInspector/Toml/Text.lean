import DspInspector.Toml.Scanner

/-!
# Strings

There are four kinds of string: on one line or on several, with escapes or without.
-/

namespace DspInspector.Toml

/-- Characters that stand for themselves in a string without escapes: everything but controls other
than the tab. -/
def isPlain (c : Char) : Bool := c == '\t' || (0x20 ≤ c.toNat && c.toNat ≠ 0x7F)

/-- The character behind a one-letter escape. -/
def escapeLetter : Char → Option Char
  | 'b' => some '\x08'
  | 't' => some '\t'
  | 'n' => some '\n'
  | 'f' => some '\x0c'
  | 'r' => some '\r'
  | '"' => some '"'
  | '\\' => some '\\'
  | _ => none

/-- A digit as a number, in a base up to sixteen. -/
def digitValue (c : Char) : Nat :=
  if c.isDigit then c.toNat - '0'.toNat
  else if 'a'.toNat ≤ c.toNat then c.toNat - 'a'.toNat + 10
  else c.toNat - 'A'.toNat + 10

/-- A digit of a base. -/
def isDigitOf (base : Nat) (c : Char) : Bool :=
  (c.isDigit || ('a' ≤ c && c ≤ 'f') || ('A' ≤ c && c ≤ 'F')) && digitValue c < base

/-- The number that digits of a base make. -/
def ofDigits (base : Nat) (digits : List Char) : Nat :=
  digits.foldl (fun value digit => value * base + digitValue digit) 0

/-- The character with the code point that hexadecimal digits make; surrogates are none. -/
def ofCodePoint (digits : List Char) : Option Char :=
  let code := ofDigits 16 digits
  if digits.all (isDigitOf 16) && code.isValidChar then some (Char.ofNat code) else none

/-- The character behind an escape, without its backslash. -/
def escape : Scanner Char := do
  match ← Scanner.one fun _ => true with
  | 'u' =>
    let digits ← Scanner.times (isDigitOf 16) 4
    ofCodePoint digits
  | 'U' =>
    let digits ← Scanner.times (isDigitOf 16) 8
    ofCodePoint digits
  | c => escapeLetter c

/-- One character of a string with escapes on one line. -/
def basicChar : Scanner Char := do
  match ← Scanner.one fun c => isPlain c && c != '"' with
  | '\\' => escape
  | c => pure c

/-- A string with escapes on one line. -/
def basicString : Scanner String := do
  Scanner.char '"'
  let chars ← Scanner.many basicChar
  Scanner.char '"'
  pure (String.ofList chars)

/-- A string without escapes on one line. -/
def literalString : Scanner String := do
  Scanner.char '\''
  let chars ← Scanner.run fun c => isPlain c && c != '\''
  Scanner.char '\''
  pure (String.ofList chars)

/-- Blanks and line ends. -/
def blankLines : Scanner Unit := do
  let _ ← Scanner.many <| (do let _ ← Scanner.one isBlank) <|> newline

/-- A backslash at the end of a line: it joins the line with the next text, whatever blanks and line ends
are in between. -/
def joinedLines : Scanner Unit := do
  Scanner.char '\\'
  blanks
  newline
  blankLines

/-- A quotation mark that does not belong to the three at the end. -/
def loneQuote (quote : Char) : Scanner (List Char) := fun text =>
  match text with
  | a :: b :: c :: rest =>
    if a != quote then none
    else if b != quote then some ([quote], b :: c :: rest)
    else if c != quote then some ([quote, quote], c :: rest)
    else none
  | _ => none

/-- The end of a string on several lines: three quotation marks, with up to two in front of them that
still belong to the string. -/
def longEnd (quote : Char) : Scanner (List Char) := do
  let three := String.ofList [quote, quote, quote]
  (do Scanner.word (three.push quote |>.push quote); pure [quote, quote]) <|>
    (do Scanner.word (three.push quote); pure [quote]) <|>
    (do Scanner.word three; pure [])

/-- A piece of a string with escapes on several lines. -/
def longBasicPiece : Scanner (List Char) :=
  (do joinedLines; pure []) <|> (do let c ← basicChar; pure [c]) <|> (do newline; pure ['\n']) <|>
    loneQuote '"'

/-- A piece of a string without escapes on several lines. -/
def longLiteralPiece : Scanner (List Char) :=
  (do let c ← Scanner.one fun c => isPlain c && c != '\''; pure [c]) <|> (do newline; pure ['\n']) <|>
    loneQuote '\''

/-- A string on several lines, made of pieces. A line end right after the opening is not part of it. -/
def longString (quote : Char) (piece : Scanner (List Char)) : Scanner String := do
  Scanner.word (String.ofList [quote, quote, quote])
  let _ ← Scanner.optional newline
  let pieces ← Scanner.many piece
  let last ← longEnd quote
  pure (String.ofList (pieces.flatten ++ last))

/-- A string of any kind. -/
def string : Scanner String :=
  longString '"' longBasicPiece <|> basicString <|> longString '\'' longLiteralPiece <|> literalString

end DspInspector.Toml

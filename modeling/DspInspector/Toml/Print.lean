import DspInspector.Text.Hex

/-!
# Printing strings

A string is printed in the simplest of the ways that can hold it.
-/

namespace DspInspector.Toml

/-- The length of the longest run of a character. -/
def longestRun (c : Char) (text : List Char) : Nat :=
  (text.foldl
    (fun (longest, current) other =>
      let current := if other = c then current + 1 else 0
      (max longest current, current))
    (0, 0)).1

/-- Controls that only an escape can hold. -/
def needsEscape (c : Char) : Bool :=
  c != '\t' && c != '\n' && (c.toNat < 0x20 || c.toNat = 0x7F)

/-- A character inside quotation marks; `quotes` counts the quotation marks right before it, of which up
to `allowed` stand for themselves. -/
def printedChar (long : Bool) (allowed quotes : Nat) (c : Char) : List Char :=
  match c with
  | '"' => if quotes < allowed then ['"'] else ['\\', '"']
  | '\\' => ['\\', '\\']
  | '\t' => ['\\', 't']
  | '\n' => if long then ['\n'] else ['\\', 'n']
  | '\r' => ['\\', 'r']
  | c =>
    if c.toNat = 8 then ['\\', 'b']
    else if c.toNat = 12 then ['\\', 'f']
    else if needsEscape c then ['\\', 'u'] ++ Text.hexPadded true 4 c.toNat
    else [c]

/-- The characters between quotation marks. An escaped quotation mark begins a new run. -/
def printedChars (long : Bool) (allowed : Nat) : (quotes : Nat) → List Char → List Char
  | _, [] => []
  | quotes, c :: text =>
    let next := if c = '"' ∧ quotes < allowed then quotes + 1 else 0
    printedChar long allowed quotes c ++ printedChars long allowed next text

/-- A text as a string. -/
def printedString (text : String) : String :=
  let chars := text.toList
  let quotes := longestRun '"' chars
  let apostrophes := longestRun '\'' chars
  let controls := chars.any needsEscape
  let backslash := chars.contains '\\'
  let newline := chars.contains '\n'
  let basic := "\"" ++ String.ofList (printedChars false 0 0 chars) ++ "\""
  let longBasic := "\"\"\"\n" ++ String.ofList (printedChars true 2 0 chars) ++ "\"\"\""
  if !controls && !backslash && quotes = 0 && !newline then basic
  else if !controls && apostrophes = 0 && !newline then "'" ++ text ++ "'"
  else if !controls && !backslash && quotes ≤ 2 then longBasic
  else if !controls && apostrophes ≤ 2 then "'''\n" ++ text ++ "'''"
  else if newline then longBasic
  else basic

end DspInspector.Toml

import DspInspector.Toml.Number

/-!
# Points in time

A date, a time of day, or both; with both, an offset from universal time may follow.
-/

namespace DspInspector.Toml

/-- A number of exactly `width` digits within bounds. -/
def clockNumber (width low high : Nat) : Scanner Nat := do
  let found ← Scanner.times Char.isDigit width
  let value := ofDigits 10 found
  if low ≤ value ∧ value ≤ high then pure value else failure

/-- The length of a month. -/
def daysInMonth (year month : Nat) : Nat :=
  if month = 2 then
    if year % 4 = 0 ∧ (year % 100 ≠ 0 ∨ year % 400 = 0) then 29 else 28
  else if month = 4 ∨ month = 6 ∨ month = 9 ∨ month = 11 then 30
  else 31

/-- A date. -/
def date : Scanner Unit := do
  let year ← clockNumber 4 0 9999
  Scanner.char '-'
  let month ← clockNumber 2 1 12
  Scanner.char '-'
  let _ ← clockNumber 2 1 (daysInMonth year month)

/-- A time of day; there may be a leap second. -/
def time : Scanner Unit := do
  let _ ← clockNumber 2 0 23
  Scanner.char ':'
  let _ ← clockNumber 2 0 59
  Scanner.char ':'
  let _ ← clockNumber 2 0 60
  let _ ← Scanner.optional do
    Scanner.char '.'
    let _ ← Scanner.one Char.isDigit
    let _ ← Scanner.run Char.isDigit

/-- An offset from universal time. -/
def offset : Scanner Unit :=
  (do let _ ← Scanner.one fun c => c == 'Z' || c == 'z') <|> (do
    let _ ← Scanner.one fun c => c == '+' || c == '-'
    let _ ← clockNumber 2 0 23
    Scanner.char ':'
    let _ ← clockNumber 2 0 59)

/-- A point in time. -/
def moment : Scanner String :=
  taken <| (do
    date
    let _ ← Scanner.optional do
      let _ ← Scanner.one fun c => c == 'T' || c == 't' || c == ' '
      time
      Scanner.optional offset) <|> time

end DspInspector.Toml

import DspInspector.Toml.Text
import DspInspector.Toml.Value

/-!
# Numbers

Integers have 64 bits. Floating numbers have to be finite when they are rounded to 64 bits, unless
they are negative or spelled `inf`.
-/

namespace DspInspector.Toml

/-- Digits of a base, with single underscores between them that do not count. -/
def digits (base : Nat) : Scanner (List Char) := do
  let first ← Scanner.one (isDigitOf base)
  let others ← Scanner.many <| Scanner.one (isDigitOf base) <|> (do
    Scanner.char '_'
    Scanner.one (isDigitOf base))
  pure (first :: others)

/-- A sign, if there is one. -/
def sign : Scanner (Option Char) := Scanner.optional (Scanner.one fun c => c == '+' || c == '-')

/-- The digits of a decimal number, which has no leading zero. -/
def decimalDigits : Scanner (List Char) := do
  match ← Scanner.ahead with
  | some '0' =>
    Scanner.char '0'
    pure ['0']
  | _ => digits 10

/-- The value, if 64 bits hold it. -/
def bounded (value : Int) : Option Int :=
  if -0x8000000000000000 ≤ value ∧ value ≤ 0x7FFFFFFFFFFFFFFF then some value else none

/-- An integer after a mark of its base. -/
def based (mark : String) (base : Nat) : Scanner Int := do
  Scanner.word mark
  let found ← digits base
  bounded (ofDigits base found)

/-- A decimal integer. -/
def decimal : Scanner Int := do
  let sign ← sign
  let found ← decimalDigits
  let magnitude : Int := ofDigits 10 found
  bounded (if sign = some '-' then -magnitude else magnitude)

/-- The integer at the front. What begins with the mark of a base has to go on as it begins. -/
def integer : Scanner Int := fun text =>
  match text with
  | '0' :: 'x' :: _ => based "0x" 16 text
  | '0' :: 'o' :: _ => based "0o" 8 text
  | '0' :: 'b' :: _ => based "0b" 2 text
  | _ => decimal text

/-- The part after the point. -/
def fraction : Scanner (List Char) := do
  Scanner.char '.'
  digits 10

/-- The power of ten. -/
def exponent : Scanner Int := do
  let _ ← Scanner.one fun c => c == 'e' || c == 'E'
  let sign ← sign
  let found ← digits 10
  let magnitude : Int := ofDigits 10 found
  pure (if sign = some '-' then -magnitude else magnitude)

/-- Half a step above the largest finite number of 64 bits: numbers from here on are rounded to infinity. -/
def overflow : Nat := ((1 <<< 54) - 1) <<< 970

/-- The number `mantissa * 10 ^ exponent` is rounded to infinity. -/
def overflows (mantissa : Nat) (exponent : Int) : Bool :=
  let size : Int := (Nat.toDigits 10 mantissa).length + exponent
  if mantissa = 0 then false
  else if size ≤ 308 then false
  else if 310 ≤ size then true
  else if 0 ≤ exponent then overflow ≤ mantissa * Nat.pow 10 exponent.toNat
  else overflow * Nat.pow 10 (-exponent).toNat ≤ mantissa

/-- A floating number in digits. -/
def decimalFloat : Scanner Unit := do
  let sign ← sign
  let whole ← decimalDigits
  let (fraction, power) ←
    (do let power ← exponent; pure ([], power)) <|> (do
      let part ← fraction
      let power ← Scanner.optional exponent
      pure (part, power.getD 0))
  if sign ≠ some '-' && overflows (ofDigits 10 (whole ++ fraction)) (power - fraction.length) then failure

/-- A floating number that is none of the ordinary ones. -/
def specialFloat : Scanner Unit := do
  let _ ← sign
  Scanner.word "inf" <|> Scanner.word "nan"

/-- The text that a scanner takes. -/
def taken (scanner : Scanner Unit) : Scanner String := fun text =>
  match scanner text with
  | none => none
  | some (_, rest) => some (String.ofList (text.take (text.length - rest.length)), rest)

/-- A floating number. -/
def float : Scanner String := taken (decimalFloat <|> specialFloat)

end DspInspector.Toml

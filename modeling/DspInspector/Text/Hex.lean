/-!
# Hexadecimal text

Words in base sixteen, padded with zeros to a least width.
-/

namespace DspInspector.Text

/-- The digit for a number below sixteen. -/
def hexDigit (upper : Bool) (n : Nat) : Char :=
  if n < 10 then Char.ofNat (48 + n) else Char.ofNat ((if upper then 55 else 87) + n)

/-- The number that a digit of either case stands for. -/
def hexValue? (c : Char) : Option Nat :=
  if c.isDigit then some (c.toNat - 48)
  else if 'a' ≤ c && c ≤ 'f' then some (c.toNat - 87)
  else if 'A' ≤ c && c ≤ 'F' then some (c.toNat - 55)
  else none

/-- The last `width` digits of a number in base sixteen, most significant first. -/
def hexPadded (upper : Bool) : (width : Nat) → Nat → List Char
  | 0, _ => []
  | width + 1, n => hexPadded upper width (n / 16) ++ [hexDigit upper (n % 16)]

/-- How many digits a number has in base sixteen, at least one, for numbers below `16 ^ fuel`. -/
def hexWidth : (fuel : Nat) → Nat → Nat
  | 0, _ => 1
  | fuel + 1, n => if n < 16 then 1 else 1 + hexWidth fuel (n / 16)

/-- A word as `0x` and as many lower-case digits as it needs. -/
def hexWord (n : Nat) : String :=
  "0x" ++ String.ofList (hexPadded false (hexWidth 16 n) n)

/-- Bytes as two lower-case digits each. -/
def hexBytes (bytes : List UInt8) : String :=
  String.ofList (bytes.flatMap fun byte => hexPadded false 2 byte.toNat)

end DspInspector.Text

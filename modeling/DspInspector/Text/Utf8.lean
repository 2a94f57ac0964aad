/-!
# UTF-8 with mistakes in it

Names stored by the firmware should be UTF-8 and need not be. Reading never fails: each longest run
of bytes that starts a character and does not finish it reads as one replacement character.
-/

namespace DspInspector.Text

/-- The replacement character. -/
def replacement : Char := Char.ofNat 0xFFFD

/-- The bits of a leading byte, and the range allowed for each byte that has to follow it. -/
def leading (byte : UInt8) : Option (Nat × List (UInt8 × UInt8)) :=
  let tail := ((0x80 : UInt8), (0xBF : UInt8))
  if byte < 0x80 then some (byte.toNat, [])
  else if byte < 0xC2 then none
  else if byte < 0xE0 then some (byte.toNat % 32, [tail])
  else if byte = 0xE0 then some (0, [(0xA0, 0xBF), tail])
  else if byte = 0xED then some (13, [(0x80, 0x9F), tail])
  else if byte < 0xF0 then some (byte.toNat % 16, [tail, tail])
  else if byte = 0xF0 then some (0, [(0x90, 0xBF), tail, tail])
  else if byte < 0xF4 then some (byte.toNat % 8, [tail, tail, tail])
  else if byte = 0xF4 then some (4, [(0x80, 0x8F), tail, tail])
  else none

/-- Adds continuation bytes to the bits read so far; stops in front of the first byte out of its range. -/
def continued (bits : Nat) : List (UInt8 × UInt8) → List UInt8 → Char × List UInt8
  | [], bytes => (Char.ofNat bits, bytes)
  | _ :: _, [] => (replacement, [])
  | (low, high) :: ranges, byte :: bytes =>
    if low ≤ byte && byte ≤ high then continued (64 * bits + byte.toNat % 64) ranges bytes
    else (replacement, byte :: bytes)

theorem length_continued (ranges : List (UInt8 × UInt8)) :
    ∀ (bits : Nat) (bytes : List UInt8), (continued bits ranges bytes).2.length ≤ bytes.length := by
  induction ranges with
  | nil => intro bits bytes; simp [continued]
  | cons range ranges ih =>
    obtain ⟨low, high⟩ := range
    intro bits bytes
    cases bytes with
    | nil => simp [continued]
    | cons byte bytes =>
      have tail := ih (64 * bits + byte.toNat % 64) bytes
      simp only [continued]
      split
      · simp only [List.length_cons]; omega
      · simp

/-- The characters of a run of bytes. -/
def lossyChars : List UInt8 → List Char
  | [] => []
  | byte :: bytes =>
    match leading byte with
    | none => replacement :: lossyChars bytes
    | some (bits, ranges) =>
      (continued bits ranges bytes).1 :: lossyChars (continued bits ranges bytes).2
termination_by bytes => bytes.length
decreasing_by
  · simp
  · have shorter := length_continued ranges bits bytes
    simp only [List.length_cons]
    omega

/-- The text of a run of bytes. -/
def lossyText (bytes : List UInt8) : String := String.ofList (lossyChars bytes)

/-- The bytes of a text. -/
def utf8 (text : String) : List UInt8 := text.toUTF8.toList

/-- The text whose bytes are given, when they are UTF-8. -/
def ofUtf8? (bytes : List UInt8) : Option String := String.fromUTF8? (ByteArray.mk bytes.toArray)

end DspInspector.Text

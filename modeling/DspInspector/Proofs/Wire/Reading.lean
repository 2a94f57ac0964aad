import DspInspector.Wire.Progress
import Mathlib.Algebra.Group.Nat.Defs

/-!
# What readers do where enough bytes are left

Reading is a sequence of steps that each take a fixed number of bytes. Where those bytes are there, a
step can be evaluated: words (`read_word`), bytes counted in front (`read_bytes`), and sequences of
readers (`bind_ok`, `bind_error`). A list is never longer than its count can say (`length_lt_of_read`).
-/

namespace DspInspector

namespace Decoder

variable {α β : Type}

/-- A sequence goes on with what its first reader leaves. -/
theorem bind_ok {first : Decoder α} {second : α → Decoder β} {bytes rest : List UInt8} {value : α}
    (read : first bytes = .ok value rest) : (first >>= second) bytes = second value rest := by
  change EStateM.bind first second bytes = _
  rw [EStateM.bind, read]

/-- A sequence fails where its first reader does. -/
theorem bind_error {first : Decoder α} {second : α → Decoder β} {bytes rest : List UInt8}
    {cause : WireError} (read : first bytes = .error cause rest) :
    (first >>= second) bytes = .error cause rest := by
  change EStateM.bind first second bytes = _
  rw [EStateM.bind, read]

theorem take_of_le {n : Nat} {bytes : List UInt8} (enough : n ≤ bytes.length) :
    take n bytes = .ok (bytes.take n) (bytes.drop n) := by
  rw [take_eq, if_pos enough]

theorem take_of_lt {n : Nat} {bytes : List UInt8} (short : bytes.length < n) :
    take n bytes = .error .endOfStream [] := by
  rw [take_eq, if_neg (by omega)]

/-- A reader that repeats another one reads as many values as it is told. -/
theorem length_of_many {item : Decoder α} : ∀ {n : Nat} {bytes rest : List UInt8} {values : List α},
    many item n bytes = .ok values rest → values.length = n
  | 0, _, _, _, read => by
    cases read
    rfl
  | n + 1, _, _, _, read => by
    obtain ⟨first, _, _, read⟩ := bind_eq_ok read
    obtain ⟨others, _, later, whole⟩ := bind_eq_ok read
    cases whole
    rw [List.length_cons, length_of_many later]

end Decoder

/-- Bytes say less than the next power of 256. -/
theorem ofLittleEndian_lt (bytes : List UInt8) : ofLittleEndian bytes < 256 ^ bytes.length := by
  induction bytes with
  | nil => simp [ofLittleEndian]
  | cons byte bytes ih =>
    have := byte.toNat_lt
    simp only [ofLittleEndian, List.length_cons, Nat.pow_succ]
    omega

theorem length_littleEndian (width : Nat) : ∀ n : Nat, (littleEndian width n).length = width := by
  induction width with
  | zero => exact fun _ => rfl
  | succ width ih => exact fun n => congrArg Nat.succ (ih (n / 256))

/-- Bytes say the number they were written for, as far as they reach. -/
theorem ofLittleEndian_littleEndian (width : Nat) : ∀ n : Nat,
    ofLittleEndian (littleEndian width n) = n % 256 ^ width := by
  induction width with
  | zero =>
    intro n
    simp [littleEndian, ofLittleEndian, Nat.mod_one]
  | succ width ih =>
    intro n
    have byte : (UInt8.ofNat (n % 256)).toNat = n % 256 := by simp
    rw [littleEndian, ofLittleEndian, ih, byte, Nat.pow_succ', Nat.mod_mul]

/-- The number that bytes say is written as those bytes. -/
theorem littleEndian_ofLittleEndian (bytes : List UInt8) :
    littleEndian bytes.length (ofLittleEndian bytes) = bytes := by
  induction bytes with
  | nil => rfl
  | cons byte bytes ih =>
    have small := byte.toNat_lt
    have low : (byte.toNat + 256 * ofLittleEndian bytes) % 256 = byte.toNat := by omega
    have high : (byte.toNat + 256 * ofLittleEndian bytes) / 256 = ofLittleEndian bytes := by omega
    rw [List.length_cons, ofLittleEndian, littleEndian, low, high, ih, UInt8.ofNat_toNat]

namespace Wire

open Decoder

variable {α β : Type}

theorem read_word {width : Nat} {ofNat : Nat → α} {toNat : α → Nat} {bytes : List UInt8}
    (enough : width ≤ bytes.length) :
    (word width ofNat toNat).read bytes =
      .ok (ofNat (ofLittleEndian (bytes.take width))) (bytes.drop width) :=
  bind_ok (take_of_le enough)

/-- A word that was read stood there as it is written. -/
theorem of_read_word {width : Nat} {ofNat : Nat → α} {toNat : α → Nat} {bytes rest : List UInt8} {value : α}
    (inverse : ∀ n < 256 ^ width, toNat (ofNat n) = n)
    (read : (word width ofNat toNat).read bytes = .ok value rest) :
    bytes = littleEndian width (toNat value) ++ rest := by
  obtain ⟨taken, left, took, read⟩ := bind_eq_ok read
  rw [take_eq] at took
  split at took
  · rename_i enough
    cases took
    cases read
    have length : (bytes.take width).length = width := List.length_take_of_le enough
    have bound := ofLittleEndian_lt (bytes.take width)
    have written := littleEndian_ofLittleEndian (bytes.take width)
    rw [length] at bound written
    rw [inverse _ bound, written, List.take_append_drop]
  · cases took

theorem read_pair [first : Wire α] [second : Wire β] {bytes between rest : List UInt8} {a : α} {b : β}
    (one : first.read bytes = .ok a between) (two : second.read between = .ok b rest) :
    (Wire.read : Decoder (α × β)) bytes = .ok (a, b) rest :=
  (bind_ok one).trans (bind_ok two)

/-- Two values that were read were read one after the other. -/
theorem of_read_pair [first : Wire α] [second : Wire β] {bytes rest : List UInt8} {pair : α × β}
    (read : (Wire.read : Decoder (α × β)) bytes = .ok pair rest) :
    ∃ between, first.read bytes = .ok pair.1 between ∧ second.read between = .ok pair.2 rest := by
  obtain ⟨a, between, readFirst, read⟩ := bind_eq_ok read
  obtain ⟨b, last, readSecond, whole⟩ := bind_eq_ok read
  cases whole
  exact ⟨between, readFirst, readSecond⟩

/-- A list that was read is no longer than its count of four bytes can say. -/
theorem length_lt_of_read [Wire α] {bytes rest : List UInt8} {values : List α}
    (read : (Wire.read : Decoder (List α)) bytes = .ok values rest) : values.length < UInt32.size := by
  obtain ⟨count, left, taken, read⟩ := bind_eq_ok read
  rw [length_of_many read]
  rw [take_eq] at taken
  split at taken
  · cases taken
    exact Nat.lt_of_lt_of_le (ofLittleEndian_lt _) (Nat.pow_le_pow_right (by decide) (List.length_take_le ..))
  · cases taken

/-- Bytes read one by one are bytes taken at once. -/
theorem many_byte (n : Nat) : ∀ bytes : List UInt8,
    many (Wire.read : Decoder UInt8) n bytes = take n bytes := by
  induction n with
  | zero => intro bytes; rfl
  | succ n ih =>
    intro bytes
    cases bytes with
    | nil => rfl
    | cons byte bytes =>
      have first : (Wire.read : Decoder UInt8) (byte :: bytes) = .ok byte bytes := by
        refine (read_word (by simp)).trans ?_
        simp [ofLittleEndian]
      refine (bind_ok first).trans ?_
      by_cases enough : n ≤ bytes.length
      · rw [take_of_le (by simpa using enough)]
        exact bind_ok ((ih bytes).trans (take_of_le enough))
      · rw [take_of_lt (by simpa using enough)]
        exact bind_error ((ih bytes).trans (take_of_lt (by omega)))

/-- Bytes that travel with their count. -/
theorem read_bytes {bytes : List UInt8} {count : Nat} (counted : ofLittleEndian (bytes.take 4) = count)
    (enough : 4 + count ≤ bytes.length) :
    (Wire.read : Decoder (List UInt8)) bytes =
      .ok ((bytes.drop 4).take count) (bytes.drop (4 + count)) := by
  have prefixed : take 4 bytes = .ok (bytes.take 4) (bytes.drop 4) := take_of_le (by omega)
  refine (bind_ok prefixed).trans ?_
  rw [counted]
  have rest : count ≤ (bytes.drop 4).length := by
    rw [List.length_drop]
    omega
  rw [many_byte, take_of_le rest, List.drop_drop]

end Wire

end DspInspector

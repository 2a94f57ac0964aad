import Mathlib.Algebra.Group.Nat.Defs

/-!
# Words made of bit fields

Fields that do not overlap are packed with shifts and `or`. As a number such a word is a sum, so a field is
found again by dividing, and two words with equal sums have equal fields. Bit by bit, taking a field out moves its
bits down (`testBit_field`), and putting a number into it replaces these bits and no others (`testBit_put`).
-/

namespace DspInspector

/-- A field above the bits of the others is added to them. -/
theorem toNat_or_shiftLeft {low high : UInt32} {shift : Nat} (below : low.toNat < 2 ^ shift)
    (fits : high.toNat * 2 ^ shift < 2 ^ 32) (small : shift < 32) :
    (low ||| high <<< UInt32.ofNat shift).toNat = low.toNat + high.toNat * 2 ^ shift := by
  have amount : (UInt32.ofNat shift).toNat % 32 = shift := by
    rw [UInt32.toNat_ofNat', Nat.mod_mod_of_dvd _ (by decide), Nat.mod_eq_of_lt small]
  rw [UInt32.toNat_or, UInt32.toNat_shiftLeft, amount, Nat.shiftLeft_eq, Nat.mod_eq_of_lt fits, Nat.or_comm,
    ← Nat.shiftLeft_eq, ← Nat.shiftLeft_add_eq_or_of_lt below, Nat.shiftLeft_eq, Nat.add_comm]

/-- A mask of ones keeps the remainder. -/
theorem toNat_and_mask (width : Nat) {mask : UInt32} (ones : mask.toNat = 2 ^ width - 1) (word : UInt32) :
    (word &&& mask).toNat = word.toNat % 2 ^ width := by
  rw [UInt32.toNat_and, ones, Nat.and_two_pow_sub_one_eq_mod]

/-! ## Bit by bit -/

/-- A field that starts at a bit of a word, and is a part of it. -/
structure FieldInside (shift width : UInt32) : Prop where
  starts : shift.toNat < 32
  proper : width.toNat < 32
  ends : shift.toNat + width.toNat ≤ 32

variable {shift width : UInt32}

theorem toNat_ones (small : width.toNat < 32) : ((1 <<< width) - 1 : UInt32).toNat = 2 ^ width.toNat - 1 := by
  have power : (1 <<< width : UInt32).toNat = 2 ^ width.toNat := by
    have fits : 2 ^ width.toNat < 2 ^ 32 := Nat.pow_lt_pow_right (by decide) small
    rw [UInt32.toNat_shiftLeft, Nat.mod_eq_of_lt small, Nat.shiftLeft_eq, UInt32.toNat_one, Nat.one_mul,
      Nat.mod_eq_of_lt fits]
  have positive : (1 : UInt32) ≤ 1 <<< width := by
    rw [UInt32.le_iff_toNat_le, power]
    exact Nat.one_le_two_pow
  rw [UInt32.toNat_sub_of_le _ _ positive, power, UInt32.toNat_one]

/-- Above the bits of a word there is nothing. -/
theorem testBit_high (word : UInt32) {i : Nat} (high : 32 ≤ i) : word.toNat.testBit i = false :=
  Nat.testBit_lt_two_pow (Nat.lt_of_lt_of_le word.toNat_lt (Nat.pow_le_pow_right (by decide) high))

theorem testBit_shiftLeft (word : UInt32) (small : shift.toNat < 32) (i : Nat) :
    (word <<< shift).toNat.testBit i =
      (decide (i < 32) && (decide (shift.toNat ≤ i) && word.toNat.testBit (i - shift.toNat))) := by
  rw [UInt32.toNat_shiftLeft, Nat.mod_eq_of_lt small, Nat.testBit_mod_two_pow, Nat.testBit_shiftLeft]

theorem testBit_not (word : UInt32) (i : Nat) :
    (~~~word).toNat.testBit i = (decide (i < 32) && !word.toNat.testBit i) := by
  have complement : (~~~word).toNat = 2 ^ 32 - (word.toNat + 1) := by
    rw [UInt32.toNat_not, UInt32.size]
    omega
  rw [complement, Nat.testBit_two_pow_sub_succ word.toNat_lt]

/-- A mask has the bits of its field. -/
theorem testBit_mask (inside : FieldInside shift width) (i : Nat) :
    (((1 <<< width) - 1 : UInt32) <<< shift).toNat.testBit i =
      decide (shift.toNat ≤ i ∧ i < shift.toNat + width.toNat) := by
  have ends := inside.ends
  rw [testBit_shiftLeft _ inside.starts, toNat_ones inside.proper, Nat.testBit_two_pow_sub_one]
  simp only [← Bool.decide_and]
  exact decide_eq_decide.mpr (by omega)

/-- The bits of a field that is taken out. -/
theorem testBit_field (inside : FieldInside shift width) (word : UInt32) (i : Nat) :
    ((word >>> shift) &&& ((1 <<< width) - 1)).toNat.testBit i =
      (decide (i < width.toNat) && word.toNat.testBit (shift.toNat + i)) := by
  rw [UInt32.toNat_and, Nat.testBit_and, toNat_ones inside.proper, Nat.testBit_two_pow_sub_one,
    UInt32.toNat_shiftRight, Nat.mod_eq_of_lt inside.starts, Nat.testBit_shiftRight, Bool.and_comm]

/-- The bits of a word with another number in a field. -/
theorem testBit_put (inside : FieldInside shift width) (word value : UInt32) (i : Nat) :
    let mask := ((1 <<< width) - 1) <<< shift
    ((word &&& ~~~mask) ||| ((value <<< shift) &&& mask)).toNat.testBit i =
      if shift.toNat ≤ i ∧ i < shift.toNat + width.toNat then value.toNat.testBit (i - shift.toNat)
      else word.toNat.testBit i := by
  intro mask
  have masked : mask.toNat.testBit i = decide (shift.toNat ≤ i ∧ i < shift.toNat + width.toNat) :=
    testBit_mask inside i
  have ends := inside.ends
  rw [UInt32.toNat_or, Nat.testBit_or, UInt32.toNat_and, Nat.testBit_and, UInt32.toNat_and, Nat.testBit_and,
    testBit_not, masked, testBit_shiftLeft value inside.starts]
  split
  · rename_i within
    have low : i < 32 := by omega
    simp [within, low]
  · rename_i without
    by_cases low : i < 32
    · simp [without, low]
    · simp [without, low, testBit_high word (Nat.le_of_not_lt low)]

end DspInspector

import DspInspector.Wire.Basic

/-!
# Reading goes forward

A reader never gives bytes back: what is left after a read is no longer than what was there before.
-/

namespace DspInspector.Decoder

/-- The reader leaves at most the bytes it was given. -/
def Forward {α : Type} (decoder : Decoder α) : Prop :=
  ∀ bytes value rest, decoder bytes = .ok value rest → rest.length ≤ bytes.length

/-- The reader consumes at least one byte when it succeeds. -/
def Consuming {α : Type} (decoder : Decoder α) : Prop :=
  ∀ bytes value rest, decoder bytes = .ok value rest → rest.length < bytes.length

variable {α β : Type}

theorem forward_pure (value : α) : Forward (pure value : Decoder α) := by
  rintro bytes _ _ ⟨⟩
  exact Nat.le_refl _

theorem forward_take (n : Nat) : Forward (take n) := by
  intro bytes value rest read
  rw [take_eq] at read
  split at read <;> cases read
  simp

theorem consuming_take {n : Nat} (positive : 0 < n) : Consuming (take n) := by
  intro bytes value rest read
  rw [take_eq] at read
  split at read <;> cases read
  simp only [List.length_drop]
  omega

theorem Consuming.forward {decoder : Decoder α} (consuming : Consuming decoder) : Forward decoder :=
  fun bytes value rest read => Nat.le_of_lt (consuming bytes value rest read)

/-- What a sequence of two reads leaves is what the second one leaves. -/
theorem bind_eq_ok {first : Decoder α} {second : α → Decoder β} {bytes rest : List UInt8} {value : β}
    (read : (first >>= second) bytes = .ok value rest) :
    ∃ between mid, first bytes = .ok between mid ∧ second between mid = .ok value rest := by
  change EStateM.bind first second bytes = _ at read
  unfold EStateM.bind at read
  split at read
  · exact ⟨_, _, by assumption, read⟩
  · cases read

theorem Forward.bind {first : Decoder α} {second : α → Decoder β} (one : Forward first)
    (two : ∀ value, Forward (second value)) : Forward (first >>= second) := by
  intro bytes value rest read
  obtain ⟨between, mid, readFirst, readSecond⟩ := bind_eq_ok read
  exact Nat.le_trans (two _ _ _ _ readSecond) (one _ _ _ readFirst)

theorem Consuming.bind {first : Decoder α} {second : α → Decoder β} (one : Consuming first)
    (two : ∀ value, Forward (second value)) : Consuming (first >>= second) := by
  intro bytes value rest read
  obtain ⟨between, mid, readFirst, readSecond⟩ := bind_eq_ok read
  exact Nat.lt_of_le_of_lt (two _ _ _ _ readSecond) (one _ _ _ readFirst)

theorem forward_many {item : Decoder α} (forward : Forward item) : ∀ n, Forward (many item n)
  | 0 => forward_pure _
  | n + 1 => forward.bind fun _ => (forward_many forward n).bind fun _ => forward_pure _

end DspInspector.Decoder

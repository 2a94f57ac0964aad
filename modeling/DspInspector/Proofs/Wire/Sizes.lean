import DspInspector.Proofs.Wire.Layout

/-!
# Declared sizes

Where a format declares a size, every value is written in that many bytes (`Measured`), whether reading
gives it back or not. So a list of such values takes four bytes for its count and the declared size for each
member (`length_write_list`). For words and what is built from them the converse holds too: any bytes of the
declared size are a value (`Exhaustive`).
-/

namespace DspInspector

namespace Wire

variable {α β : Type}

/-- A type whose format is right about the size of its values, if it declares one. -/
class Measured (α : Type) [Wire α] : Prop where
  length_write {n : Nat} (declared : Wire.size α = some n) (value : α) : (Wire.write value).length = n

theorem measured_word {width : Nat} {ofNat : Nat → α} {toNat : α → Nat} :
    @Measured α (word width ofNat toNat) := by
  refine @Measured.mk α (word width ofNat toNat) fun {n} declared value => ?_
  cases declared
  exact length_littleEndian width (toNat value)

instance : Measured UInt8 := measured_word
instance : Measured UInt16 := measured_word
instance : Measured UInt32 := measured_word
instance : Measured UInt64 := measured_word

theorem measured_via [Wire β] [measured : Measured β] {into : β → α} {outOf : α → β} :
    @Measured α (via into outOf) :=
  @Measured.mk α (via into outOf) fun declared value => measured.length_write declared (outOf value)

instance : Measured Int8 := measured_via
instance : Measured Int16 := measured_via
instance : Measured Int32 := measured_via
instance : Measured Int64 := measured_via

/-- A pair declares a size when both parts do. -/
theorem of_size_pair [Wire α] [Wire β] {n : Nat} (declared : Wire.size (α × β) = some n) :
    ∃ m k, Wire.size α = some m ∧ Wire.size β = some k ∧ m + k = n := by
  dsimp only [Wire.size] at declared
  split at declared
  · rename_i m k first second
    exact ⟨m, k, first, second, Option.some.inj declared⟩
  · cases declared

instance [Wire α] [Wire β] [one : Measured α] [two : Measured β] : Measured (α × β) where
  length_write {n} declared pair := by
    obtain ⟨m, k, first, second, rfl⟩ := of_size_pair declared
    show (Wire.write pair.1 ++ Wire.write pair.2).length = _
    rw [List.length_append, one.length_write first, two.length_write second]

/-- Values of one size, one after the other. -/
theorem length_flatMap_write [Wire α] [measured : Measured α] {n : Nat} (declared : Wire.size α = some n)
    (values : List α) : (values.flatMap Wire.write).length = values.length * n := by
  induction values with
  | nil => rw [List.flatMap_nil, List.length_nil, List.length_nil, Nat.zero_mul]
  | cons value values ih =>
    rw [List.flatMap_cons, List.length_append, measured.length_write declared, ih, List.length_cons, Nat.add_one_mul,
      Nat.add_comm]

instance [Wire α] [Measured α] {k : Nat} : Measured (Vector α k) where
  length_write {n} declared values := by
    obtain ⟨each, sized, rfl⟩ := Option.map_eq_some_iff.mp declared
    show (values.toList.flatMap Wire.write).length = each * k
    rw [length_flatMap_write sized, Vector.length_toList, Nat.mul_comm]

/-- A list declares no size. -/
instance [Wire α] : Measured (List α) := ⟨fun declared => nomatch declared⟩

/-- The size of a list follows from the size of its members. -/
theorem length_write_list [Wire α] [Measured α] {n : Nat} (declared : Wire.size α = some n) (values : List α) :
    (Wire.write values).length = 4 + values.length * n := by
  show (littleEndian 4 values.length ++ values.flatMap Wire.write).length = _
  rw [List.length_append, length_littleEndian, length_flatMap_write declared]

/-- A list whose bytes can be counted can be counted itself. -/
theorem fits_of_fits_write [Wire α] [Measured α] {n : Nat} (declared : Wire.size α = some (n + 1)) {values : List α}
    (fits : Fits (Wire.write values)) : Fits values := by
  have each : values.length ≤ values.length * (n + 1) := Nat.le_mul_of_pos_right _ n.succ_pos
  rw [Fits, length_write_list declared] at fits
  rw [Fits]
  omega

/-- A type whose values use up the declared size: whatever stands in that many bytes is a value. -/
class Exhaustive (α : Type) [Wire α] : Prop where
  exists_write {n : Nat} (declared : Wire.size α = some n) {bytes : List UInt8} (length : bytes.length = n) :
    ∃ value : α, Wire.write value = bytes

theorem exhaustive_word {width : Nat} {ofNat : Nat → α} {toNat : α → Nat}
    (whole : ∀ n < 256 ^ width, toNat (ofNat n) = n) : @Exhaustive α (word width ofNat toNat) := by
  refine @Exhaustive.mk α (word width ofNat toNat) fun {_} declared {bytes} length => ?_
  cases declared
  refine ⟨ofNat (ofLittleEndian bytes), ?_⟩
  show littleEndian width (toNat (ofNat (ofLittleEndian bytes))) = bytes
  rw [whole _ (length ▸ ofLittleEndian_lt bytes), ← length, littleEndian_ofLittleEndian]

instance : Exhaustive UInt16 := exhaustive_word fun _ => UInt16.toNat_ofNat_of_lt
instance : Exhaustive UInt32 := exhaustive_word fun _ => UInt32.toNat_ofNat_of_lt

theorem exhaustive_via [Wire β] [exhaustive : Exhaustive β] {into : β → α} {outOf : α → β}
    (inverse : ∀ value, outOf (into value) = value) : @Exhaustive α (via into outOf) := by
  refine @Exhaustive.mk α (via into outOf) fun {_} declared {bytes} length => ?_
  obtain ⟨value, written⟩ := exhaustive.exists_write declared length
  exact ⟨into value, (congrArg Wire.write (inverse value)).trans written⟩

instance [Wire α] [Wire β] [one : Exhaustive α] [two : Exhaustive β] : Exhaustive (α × β) where
  exists_write {n} declared bytes length := by
    obtain ⟨m, k, first, second, rfl⟩ := of_size_pair declared
    have front : (bytes.take m).length = m := by rw [List.length_take]; omega
    have behind : (bytes.drop m).length = k := by rw [List.length_drop]; omega
    obtain ⟨a, writtenFirst⟩ := one.exists_write first front
    obtain ⟨b, writtenSecond⟩ := two.exists_write second behind
    refine ⟨(a, b), ?_⟩
    show Wire.write a ++ Wire.write b = bytes
    rw [writtenFirst, writtenSecond, List.take_append_drop]

theorem fits_of_fits_append {first second : List α} (fits : Fits (first ++ second)) : Fits first ∧ Fits second := by
  rw [Fits, List.length_append] at fits
  constructor <;> rw [Fits] <;> omega

end Wire

open Wire

instance {κ : Type} [Enumeration κ] : Measured (Coded κ) := measured_via

instance : Measured Digest where
  length_write declared digest := by
    cases declared
    show ((digest.bytes ++ List.replicate Digest.size 0).take Digest.size).length = Digest.size
    rw [List.length_take, List.length_append, List.length_replicate]
    omega

instance : Measured FirmwareVersion := measured_via
instance : Measured InstanceId := measured_via
instance : Measured ConnectorId := measured_via
instance : Measured Gateway := measured_via
instance : Measured Segment := measured_via
instance : Measured ModuleEntry := measured_via
instance : Measured Measurement := measured_via
instance : Measured BankState := measured_via
instance : Measured DmaBuffer := measured_via
instance : Measured I2sCapabilities := measured_via
instance : Measured GpdmaCapabilities := measured_via
instance : Measured AudioFormat := measured_via
instance : Measured Pin := measured_via
instance : Measured InstanceProps := measured_via
instance : Measured Pipeline := measured_via
instance : Measured ScheduledTask := measured_via
instance : Measured Scheduler := measured_via
instance : Measured CoreSchedule := measured_via
instance : Measured ProbePoint := measured_via
instance : Measured MessageHeader := measured_via
instance : Measured TunnelHeader := measured_via

/-- A packet declares no size. -/
instance : Measured Packet := ⟨fun declared => nomatch declared⟩

/-- Every layout is right about its size, by induction over arrays and lists. -/
theorem Layout.measured (layout : Layout) : Measured layout.Value := by
  induction layout with
  | array length item ih => exact inferInstanceAs (Measured (Vector item.Value length))
  | list item ih => exact inferInstanceAs (Measured (List item.Value))
  | _ => infer_instance

instance : Exhaustive FirmwareVersion := exhaustive_via fun _ => rfl

end DspInspector

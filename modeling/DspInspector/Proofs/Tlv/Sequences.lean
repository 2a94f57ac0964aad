import DspInspector.Proofs.Tlv.Registration
import DspInspector.Proofs.Wire.Extents
import DspInspector.Proofs.Wire.Verbatim

/-!
# Sequences whose size was accepted

The loop over the bytes of a sequence has no count: it goes on until no byte is left, so each turn has to take some.
Reading is the inverse of writing, and so a type moves the loop forward when none of its values is written in no bytes
(`Solid`). `Layout.TakesBytes` says which types those are: all but an array without members, and an array of such
arrays. For them an accepted size is read to its end. For the others the loop stands still, whatever the size check
has said (`Ends`).
-/

namespace DspInspector

open Decoder Wire

/-! ## Values that take bytes -/

namespace Wire

variable {α β : Type}

/-- A type without a value of no bytes. -/
class Solid (α : Type) [Wire α] : Prop where
  write_ne_nil (value : α) : Wire.write value ≠ []

theorem solid_of_size [Wire α] [measured : Measured α] {n : Nat} (declared : Wire.size α = some (n + 1)) :
    Solid α := by
  constructor
  intro value empty
  have length := measured.length_write declared value
  rw [empty] at length
  cases length

theorem solid_via [Wire β] [solid : Solid β] {into : β → α} {outOf : α → β} : @Solid α (via into outOf) :=
  @Solid.mk α (via into outOf) fun value => solid.write_ne_nil (outOf value)

instance [Wire α] [Wire β] [solid : Solid α] : Solid (α × β) where
  write_ne_nil pair := List.append_ne_nil_of_left_ne_nil (solid.write_ne_nil pair.1) _

/-- The count is there when the members are not. -/
instance [Wire α] : Solid (List α) where
  write_ne_nil values := by
    refine List.append_ne_nil_of_left_ne_nil ?_ _
    intro empty
    have length : (littleEndian 4 values.length).length = 4 := length_littleEndian 4 values.length
    cases (congrArg List.length empty).symm.trans length

theorem solid_vector [Wire α] [solid : Solid α] {length : Nat} (some : 0 < length) : Solid (Vector α length) := by
  constructor
  intro values empty
  have first : values[0] ∈ values.toList := Vector.mem_toList_iff.mpr (Vector.getElem_mem some)
  have nothing := List.flatMap_eq_nil_iff.mp empty _ first
  exact solid.write_ne_nil _ nothing

theorem consuming_of_solid [Wire α] [Verbatim α] [solid : Solid α] : Consuming (Wire.read : Decoder α) := by
  intro bytes value rest read
  have stood := (Verbatim.of_read read).1
  have some := List.length_pos_iff.mpr (solid.write_ne_nil value)
  rw [stood, List.length_append]
  omega

/-- Members that take no bytes make vectors that take none. -/
theorem exists_vector_of_standing {item : Decoder α} {bytes : List UInt8} {value : α}
    (read : item bytes = .ok value bytes) (length : Nat) :
    ∃ values, Decoder.vector item length bytes = .ok values bytes := by
  induction length with
  | zero => exact ⟨#v[], rfl⟩
  | succ length ih =>
    obtain ⟨values, before⟩ := ih
    refine ⟨values.push value, ?_⟩
    rw [Decoder.vector, bind_ok before, bind_ok read]
    rfl

end Wire

instance : Solid UInt32 := solid_of_size (n := 3) rfl
instance : Solid InstanceId := solid_of_size (n := 3) rfl
instance : Solid I2sCapabilities := solid_via
instance : Solid GpdmaCapabilities := solid_via
instance : Solid InstanceProps := solid_via
instance : Solid Pipeline := solid_via
instance : Solid ScheduledTask := solid_via
instance : Solid Scheduler := solid_via
instance : Solid CoreSchedule := solid_via
instance : Solid BankState := solid_via

/-- A packet begins with the sync word. -/
instance : Solid Packet where
  write_ne_nil packet := by
    have sync : Wire.write Packet.syncWord ≠ [] := Solid.write_ne_nil Packet.syncWord
    exact List.append_ne_nil_of_left_ne_nil (List.append_ne_nil_of_left_ne_nil sync _) _

namespace Layout

/-- The types whose values take bytes. -/
def TakesBytes : Layout → Prop
  | array length item => 0 < length ∧ item.TakesBytes
  | _ => True

/-- Most types have a size that is not zero; the others hold a list or a field before all else. -/
theorem solid (layout : Layout) (takes : layout.TakesBytes) : Solid layout.Value := by
  have measured := layout.measured
  induction layout with
  | array length item ih =>
    have : Solid item.Value := ih takes.2 item.measured
    exact solid_vector takes.1
  | list item => exact inferInstanceAs (Solid (List item.Value))
  | i2sCapabilities | gpdmaCapabilities | instanceProps | pipeline | scheduledTask | scheduler | coreSchedule
  | bankState | packet => infer_instance
  | _ => exact solid_of_size rfl

theorem consuming (layout : Layout) (takes : layout.TakesBytes) : Consuming layout.wire.read := by
  have solid := layout.solid takes
  have verbatim := layout.verbatim
  exact consuming_of_solid

/-- A type that takes no bytes is read anywhere, as often as one likes. -/
theorem read_standing (layout : Layout) (empty : ¬ layout.TakesBytes) (bytes : List UInt8) :
    ∃ value, layout.wire.read bytes = .ok value bytes := by
  induction layout with
  | array length item ih =>
    by_cases none : length = 0
    · subst none
      exact ⟨#v[], rfl⟩
    · have still : ¬ item.TakesBytes := fun takes => empty ⟨Nat.pos_of_ne_zero none, takes⟩
      obtain ⟨value, read⟩ := ih still
      exact exists_vector_of_standing read length
  | _ => exact absurd trivial empty

end Layout

namespace Tlv

/-! ## The loop -/

section Loop

variable {α : Type} {read : Decoder α} {bytes rest : List UInt8} {values : List α}

/-- What some turns of the loop have read, and the bytes that are still in front of it. A turn is made where bytes are
left, and reads an element. -/
inductive Turns (read : Decoder α) : List UInt8 → List α → List UInt8 → Prop where
  | none {bytes : List UInt8} : Turns read bytes [] bytes
  | more {bytes between rest : List UInt8} {value : α} {values : List α} (some : bytes ≠ [])
    (first : read bytes = .ok value between) (others : Turns read between values rest) :
    Turns read bytes (value :: values) rest

/-- The loop makes so many turns at most. -/
def Ends (read : Decoder α) (bytes : List UInt8) : Prop :=
  ∃ bound, ∀ values rest, Turns read bytes values rest → values.length ≤ bound

/-- Each turn has taken a byte. -/
theorem Turns.length_le (consuming : Consuming read) (turns : Turns read bytes values rest) :
    values.length ≤ bytes.length := by
  induction turns with
  | none => exact Nat.zero_le _
  | more some first others ih =>
    have shorter := consuming _ _ _ first
    rw [List.length_cons]
    omega

theorem ends_of_consuming (consuming : Consuming read) (bytes : List UInt8) : Ends read bytes :=
  ⟨bytes.length, fun _ _ turns => turns.length_le consuming⟩

/-- An element that takes no bytes leaves the loop where it is, for any number of turns. -/
theorem turns_of_standing {value : α} (some : bytes ≠ []) (standing : read bytes = .ok value bytes) (count : Nat) :
    Turns read bytes (List.replicate count value) bytes := by
  induction count with
  | zero => exact .none
  | succ count ih => exact .more some standing ih

theorem not_ends_of_standing {value : α} (some : bytes ≠ []) (standing : read bytes = .ok value bytes) :
    ¬ Ends read bytes := by
  rintro ⟨bound, last⟩
  have past := last _ _ (turns_of_standing some standing (bound + 1))
  rw [List.length_replicate] at past
  omega

theorem elements_of_standing {value : α} (some : bytes ≠ []) (standing : read bytes = .ok value bytes) :
    elements read bytes = .error .endless := by
  obtain ⟨byte, others, rfl⟩ := List.exists_cons_of_ne_nil some
  rw [elements, standing]
  exact if_neg (Nat.lt_irrefl _)

/-- The elements of some bytes are written in these bytes. -/
theorem Elements.flatMap_write [Wire α] [Verbatim α] (whole : Elements (Wire.read : Decoder α) bytes values) :
    values.flatMap Wire.write = bytes := by
  induction whole with
  | done => rfl
  | more some first others ih =>
    rw [List.flatMap_cons, ih]
    exact (Verbatim.of_read first).1.symm

/-- Bytes that divide into elements of a size do not end inside one. -/
theorem Broken.not_dvd {n : Nat} {cause : WireError} (extent : Extent read n) (broken : Broken read bytes cause) :
    ¬ n ∣ bytes.length := by
  induction broken with
  | here some failure =>
    intro whole
    have enough := Nat.le_of_dvd (List.length_pos_iff.mpr some) whole
    exact Nat.not_lt_of_le enough (extent.of_error failure)
  | later some first broken ih =>
    intro whole
    obtain ⟨-, rfl⟩ := extent.of_ok first
    -- What this element leaves divides as well.
    apply ih
    rw [List.length_drop]
    exact Nat.dvd_sub whole (Nat.dvd_refl n)

end Loop

/-! ## Accepted sizes -/

section Accepted

variable {σ : Type} {layout : Layout} {field : Field σ (List layout.Value)} {bytes : List UInt8}

theorem ne_nil_of_accepted (accepted : (Slot.sequence layout.wire field).accepts bytes.length = true) :
    bytes ≠ [] := by
  rintro rfl
  cases accepted

theorem dvd_of_accepted (accepted : (Slot.sequence layout.wire field).accepts bytes.length = true) {n : Nat}
    (declared : layout.declared = some n) (positive : 0 < n) : n ∣ bytes.length := by
  obtain ⟨m, rfl⟩ := Nat.exists_eq_succ_of_ne_zero (Nat.ne_of_gt positive)
  have size : layout.wire.size = some (m + 1) := layout.size_eq_declared.trans declared
  simp only [Slot.sequence, size, Bool.and_eq_true, beq_iff_eq] at accepted
  exact Nat.dvd_of_mod_eq_zero accepted.2

theorem declared_pos (takes : layout.TakesBytes) {n : Nat} (declared : layout.declared = some n) : 0 < n := by
  have extent : Extent layout.wire.read n := layout.extent declared
  have enough : n ≤ (List.replicate n (0 : UInt8)).length := Nat.le_of_eq List.length_replicate.symm
  obtain ⟨value, read⟩ := extent.enough enough
  have shorter := layout.consuming takes _ _ _ read
  rw [List.length_drop, List.length_replicate] at shorter
  omega

/-- What the bytes of a sequence came to, by what the slot answers and the field holds then: the elements that are
written in these bytes, or the complaint about one of them and no elements. -/
def Filed (field : Field σ (List layout.Value)) (bytes : List UInt8) : EStateM.Result ValueError σ Unit → Prop
  | .ok _ after => (field.get after).flatMap layout.wire.write = bytes
  | .error (.element _) after => field.get after = []
  | .error _ _ => False

theorem filed_store (takes : layout.TakesBytes)
    (shown : ∀ values record, field.get (field.set values record) = values)
    (bytes : List UInt8) (record : σ) :
    Filed field bytes ((Slot.sequence layout.wire field).store bytes record) := by
  have verbatim := layout.verbatim
  obtain ⟨values, read, whole⟩ | ⟨cause, refused, -⟩ := elements_eq (layout.consuming takes) bytes
  · have written : values.flatMap layout.wire.write = bytes := whole.flatMap_write
    simpa only [Slot.sequence, read, Filed, shown] using written
  · simp only [Slot.sequence, refused, Filed, shown]

/-- Elements of a size fill the bytes that divide into them. -/
theorem store_of_dvd (takes : layout.TakesBytes)
    (shown : ∀ values record, field.get (field.set values record) = values)
    {n : Nat} (declared : layout.declared = some n) (whole : n ∣ bytes.length) (record : σ) :
    ∃ after, (Slot.sequence layout.wire field).store bytes record = .ok () after ∧
      (field.get after).length = bytes.length / n ∧ (field.get after).flatMap layout.wire.write = bytes := by
  have verbatim := layout.verbatim
  have measured := layout.measured
  have size : layout.wire.size = some n := layout.size_eq_declared.trans declared
  obtain ⟨values, read, elements⟩ | ⟨cause, -, broken⟩ := elements_eq (layout.consuming takes) bytes
  · have written : values.flatMap layout.wire.write = bytes := elements.flatMap_write
    have length : bytes.length = values.length * n := by
      rw [← written]
      exact length_flatMap_write size values
    have count : values.length = bytes.length / n := by
      rw [length, Nat.mul_div_cancel _ (declared_pos takes declared)]
    refine ⟨field.set values record, ?_, ?_, ?_⟩
    · simp only [Slot.sequence, read]
    · rw [shown, count]
    · rw [shown, written]
  · exact absurd whole (broken.not_dvd (layout.extent declared))

/-- A sequence of an accepted size is read to its end, if its elements take bytes: elements of a declared size are all
there and fill the bytes, and of others there may be one that cannot be read. If the elements take no bytes, then the
loop never ends, although the size was accepted. -/
theorem accepted_sequence_ends (layout : Layout) (field : Field σ (List layout.Value))
    (shown : ∀ values record, field.get (field.set values record) = values) (bytes : List UInt8)
    (accepted : (Slot.sequence layout.wire field).accepts bytes.length = true) (record : σ) :
    (layout.TakesBytes →
      Ends layout.wire.read bytes ∧
      Filed field bytes ((Slot.sequence layout.wire field).store bytes record) ∧
      ∀ n, layout.declared = some n →
        ∃ after, (Slot.sequence layout.wire field).store bytes record = .ok () after ∧
          (field.get after).length = bytes.length / n ∧ (field.get after).flatMap layout.wire.write = bytes) ∧
    (¬ layout.TakesBytes →
      ¬ Ends layout.wire.read bytes ∧
      (Slot.sequence layout.wire field).store bytes record = .error .endless (field.set [] record)) := by
  constructor
  · intro takes
    refine ⟨ends_of_consuming (layout.consuming takes) bytes, filed_store takes shown bytes record, ?_⟩
    intro n declared
    have whole : n ∣ bytes.length := dvd_of_accepted accepted declared (declared_pos takes declared)
    exact store_of_dvd takes shown declared whole record
  · intro empty
    have some := ne_nil_of_accepted accepted
    obtain ⟨value, standing⟩ := layout.read_standing empty bytes
    refine ⟨not_ends_of_standing some standing, ?_⟩
    simp only [Slot.sequence, elements_of_standing some standing]

/-- The field of a record that is nothing but the field. -/
def itself (β : Type) : Field β β := ⟨id, fun value _ => value⟩

/-- Eight bytes are two pairs of words, three bytes are not even one list, and for arrays without members two bytes
are as many as any. -/
theorem accepted_sequence_ends_samples :
    (∃ after, (Slot.sequence (Layout.array 2 .u16).wire (itself _)).store [1, 0, 2, 0, 3, 0, 4, 0] [] =
        .ok () after ∧ after.length = 2) ∧
    @Filed _ (.list .u8) (itself _) [1, 0, 0]
      ((Slot.sequence (Layout.list .u8).wire (itself _)).store [1, 0, 0] []) ∧
    ¬ Ends (Layout.array 0 (.list .u8)).wire.read [7, 7] := by
  obtain ⟨pairs, -⟩ :=
    accepted_sequence_ends (.array 2 .u16) (itself _) (fun _ _ => rfl) [1, 0, 2, 0, 3, 0, 4, 0] rfl []
  obtain ⟨lists, -⟩ := accepted_sequence_ends (.list .u8) (itself _) (fun _ _ => rfl) [1, 0, 0] rfl []
  obtain ⟨-, nothing⟩ := accepted_sequence_ends (.array 0 (.list .u8)) (itself _) (fun _ _ => rfl) [7, 7] rfl []
  obtain ⟨after, stored, length, -⟩ := (pairs ⟨by decide, trivial⟩).2.2 4 rfl
  exact ⟨⟨after, stored, length⟩, (lists trivial).2.1, (nothing fun takes => absurd takes.1 (by decide)).1⟩

/-- Arrays without members have a fixed size, every size but zero is accepted for a sequence of them, and reading the
sequence does not end. -/
theorem empty_arrays_accepted_endless :
    (Layout.array 0 .u16).declared = some 0 ∧
      (Slot.sequence (Layout.array 0 .u16).wire (itself _)).accepts [0, 0].length = true ∧
      ¬ Ends (Layout.array 0 .u16).wire.read [0, 0] := by
  refine ⟨rfl, rfl, ?_⟩
  have standing : (Layout.array 0 .u16).wire.read [0, 0] = .ok #v[] [0, 0] := rfl
  exact not_ends_of_standing (List.cons_ne_nil _ _) standing

end Accepted

end Tlv

end DspInspector

import DspInspector.Proofs.Wire.Reading
import DspInspector.Wire.Coded
import DspInspector.Wire.Cursor

/-!
# Values that reading finds again

A value is echoed when reading its bytes gives it back and stops behind them, whatever follows. The
formats are built from words, pairs, vectors and counted lists, so one lemma for each of these pieces
carries the property to every record. For the types without a choice in them it holds of every value
(`Faithful`); enumerations need codes that are told apart (`Lawful`), and lists a length that their
count can say.
-/

namespace DspInspector

namespace Wire

open Decoder

variable {α β : Type}

/-- Reading the bytes of the value gives it back and leaves what follows. -/
def Echoed [Wire α] (value : α) : Prop :=
  ∀ rest : List UInt8, (Wire.read : Decoder α) (Wire.write value ++ rest) = .ok value rest

/-- A type whose values are all echoed. -/
class Faithful (α : Type) [Wire α] : Prop where
  echoed (value : α) : Echoed value

theorem echoed_word {width : Nat} {ofNat : Nat → α} {toNat : α → Nat} {value : α}
    (bound : toNat value < 256 ^ width) (inverse : ofNat (toNat value) = value) :
    @Echoed α (word width ofNat toNat) value := by
  intro rest
  have length : (littleEndian width (toNat value)).length = width := length_littleEndian width _
  have enough : width ≤ (littleEndian width (toNat value) ++ rest).length := by
    rw [List.length_append, length]
    omega
  show (word width ofNat toNat).read (littleEndian width (toNat value) ++ rest) = _
  rw [read_word enough, List.take_left' length, List.drop_left' length, ofLittleEndian_littleEndian,
    Nat.mod_eq_of_lt bound, inverse]

instance : Faithful UInt8 := ⟨fun value => echoed_word value.toNat_lt UInt8.ofNat_toNat⟩
instance : Faithful UInt16 := ⟨fun value => echoed_word value.toNat_lt UInt16.ofNat_toNat⟩
instance : Faithful UInt32 := ⟨fun value => echoed_word value.toNat_lt UInt32.ofNat_toNat⟩
instance : Faithful UInt64 := ⟨fun value => echoed_word value.toNat_lt UInt64.ofNat_toNat⟩

/-- Another arrangement of an echoed value, when nothing is lost on the way there and back. -/
theorem echoed_via [format : Wire β] {into : β → α} {outOf : α → β} {value : α}
    (echoed : Echoed (outOf value)) (inverse : into (outOf value) = value) :
    @Echoed α (via into outOf) value := by
  intro rest
  refine (bind_ok (echoed rest)).trans ?_
  rw [inverse]
  rfl

theorem faithful_via [Wire β] [Faithful β] {into : β → α} {outOf : α → β}
    (inverse : ∀ value, into (outOf value) = value) : @Faithful α (via into outOf) :=
  @Faithful.mk α (via into outOf) fun value => echoed_via (Faithful.echoed _) (inverse value)

instance : Faithful Int8 := faithful_via fun _ => rfl
instance : Faithful Int16 := faithful_via fun _ => rfl
instance : Faithful Int32 := faithful_via fun _ => rfl
instance : Faithful Int64 := faithful_via fun _ => rfl

theorem echoed_pair [Wire α] [Wire β] {a : α} {b : β} (first : Echoed a) (second : Echoed b) :
    Echoed (a, b) := by
  intro rest
  show (Wire.read : Decoder (α × β)) (Wire.write a ++ Wire.write b ++ rest) = _
  rw [List.append_assoc]
  exact read_pair (first _) (second _)

instance [Wire α] [Wire β] [Faithful α] [Faithful β] : Faithful (α × β) :=
  ⟨fun (a, b) => echoed_pair (Faithful.echoed a) (Faithful.echoed b)⟩

/-- Values written one after the other are read one after the other. -/
theorem many_echoed [Wire α] {values : List α} (echoed : ∀ value ∈ values, Echoed value)
    (rest : List UInt8) :
    many (Wire.read : Decoder α) values.length (values.flatMap Wire.write ++ rest) = .ok values rest := by
  induction values with
  | nil => rfl
  | cons value values ih =>
    rw [List.flatMap_cons, List.append_assoc]
    refine (bind_ok (echoed value List.mem_cons_self _)).trans ?_
    exact bind_ok (ih fun other member => echoed other (List.mem_cons_of_mem value member))

/-- A list that its count of four bytes can describe. -/
def Fits (values : List α) : Prop := values.length < UInt32.size

/-- A list is echoed when its length fits the count and its members are. -/
theorem echoed_list [Wire α] {values : List α} (fits : Fits values)
    (echoed : ∀ value ∈ values, Echoed value) : Echoed values := by
  intro rest
  have count : (littleEndian 4 values.length).length = 4 := length_littleEndian 4 _
  show (Wire.read : Decoder (List α))
    (littleEndian 4 values.length ++ values.flatMap Wire.write ++ rest) = _
  rw [List.append_assoc]
  have enough : 4 ≤ (littleEndian 4 values.length ++ (values.flatMap Wire.write ++ rest)).length := by
    rw [List.length_append, count]
    omega
  have whole : values.length % 256 ^ 4 = values.length := Nat.mod_eq_of_lt fits
  refine (bind_ok (take_of_le enough)).trans ?_
  rw [List.take_left' count, List.drop_left' count, ofLittleEndian_littleEndian, whole]
  exact many_echoed echoed rest

theorem echoed_list_of_faithful [Wire α] [Faithful α] {values : List α} (fits : Fits values) :
    Echoed values :=
  echoed_list fits fun value _ => Faithful.echoed value

/-- The vector reader takes the members from the front, one for each step. -/
theorem vector_echoed [Wire α] {n : Nat} (values : Vector α n) (echoed : ∀ value ∈ values, Echoed value)
    (rest : List UInt8) :
    Decoder.vector (Wire.read : Decoder α) n (values.toList.flatMap Wire.write ++ rest) =
      .ok values rest := by
  induction n generalizing rest with
  | zero =>
    obtain rfl : values = #v[] := Vector.eq_empty
    rfl
  | succ n ih =>
    obtain ⟨before, last, rfl⟩ : ∃ before last, values = Vector.push before last := Vector.exists_push
    rw [Vector.toList_push, List.flatMap_append, List.append_assoc]
    have earlier : ∀ value ∈ before, Echoed value := fun value member =>
      echoed value (Vector.mem_push.mpr (.inl member))
    refine (bind_ok (ih before earlier _)).trans ?_
    rw [List.flatMap_singleton]
    exact bind_ok (echoed last Vector.mem_push_self rest)

theorem echoed_vector [Wire α] {n : Nat} {values : Vector α n} (echoed : ∀ value ∈ values, Echoed value) :
    Echoed values := vector_echoed values echoed

instance [Wire α] [Faithful α] {n : Nat} : Faithful (Vector α n) :=
  ⟨fun _ => echoed_vector fun value _ => Faithful.echoed value⟩

/-- Reading behind other bytes of a buffer moves the cursor over the bytes of an echoed value. -/
theorem Echoed.read_cursor [Wire α] {value : α} (echoed : Echoed value) (before rest : List UInt8) :
    (Cursor.mk (before ++ Wire.write value ++ rest) before.length).read Wire.read =
      (.ok value, ⟨before ++ Wire.write value ++ rest, before.length + (Wire.write value).length⟩) := by
  have ahead : (Cursor.mk (before ++ Wire.write value ++ rest) before.length).rest =
      Wire.write value ++ rest := by
    rw [Cursor.rest, List.append_assoc, List.drop_left]
  simp only [Cursor.read, ahead, echoed rest, Cursor.before, List.length_append, Nat.add_sub_cancel]

end Wire

/-- An enumeration whose table has every member, under a code that no earlier member has. -/
class Lawful (κ : Type) [Enumeration κ] : Prop where
  ofRaw_code (member : κ) : Coded.ofRaw (Enumeration.coding member).code = .known member

namespace Coded

variable {κ : Type} [Enumeration κ]

/-- A member, or a code that no member has. -/
def Canonical : Coded κ → Prop
  | .known _ => True
  | .unknown raw => ∀ member : κ, (Enumeration.coding member).code ≠ raw

theorem ofRaw_raw [Lawful κ] {value : Coded κ} (canonical : value.Canonical) :
    Coded.ofRaw value.raw = value := by
  cases value with
  | known member => exact Lawful.ofRaw_code member
  | unknown raw =>
    have absent : (Enumeration.all : List κ).find?
        (fun member => (Enumeration.coding member).code == raw) = none := by
      rw [List.find?_eq_none]
      intro member _ same
      exact canonical member (beq_iff_eq.mp same)
    rw [Coded.raw, Coded.ofRaw, absent]

theorem echoed [Lawful κ] {value : Coded κ} (canonical : value.Canonical) : Wire.Echoed value :=
  Wire.echoed_via (Wire.Faithful.echoed _) (ofRaw_raw canonical)

end Coded

end DspInspector

import DspInspector.Json.Read
import DspInspector.Module.Entry
import DspInspector.Proofs.Wire.Echo
import DspInspector.Proofs.Wire.Sizes
import Mathlib.Data.List.Forall2

/-!
# UUIDs as text

The UUID of a module type is stored as four little-endian words and shown in registry form: a word, two half words and
eight bytes in five groups of digits. Its sixteen bytes are grouped in three different ways on the way, and none of
them may be lost or shown twice, because reports tell module types apart by the text alone. `Uuid.words?` takes the
text apart again; `ModuleEntry.uuidText_identifies` says that it finds the words that were stored.
-/

namespace DspInspector

namespace Text

/-- The digits of numbers in base sixteen, as they are written in upper case. -/
def upperDigits : List Char := "0123456789ABCDEF".toList

/-- The number that digits of either case say, most significant first. -/
def hexNumber? (digits : List Char) : Option Nat :=
  digits.foldlM (fun number digit => (hexValue? digit).map (16 * number + ·)) 0

theorem hexDigit_mem : ∀ n < 16, hexDigit true n ∈ upperDigits := by decide

theorem hexValue?_hexDigit : ∀ n < 16, hexValue? (hexDigit true n) = some n := by decide

theorem length_hexPadded (upper : Bool) (width n : Nat) : (hexPadded upper width n).length = width := by
  induction width generalizing n with
  | zero => rfl
  | succ width ih => rw [hexPadded, List.length_append, ih, List.length_singleton]

theorem mem_hexPadded {width n : Nat} {c : Char} (member : c ∈ hexPadded true width n) : c ∈ upperDigits := by
  induction width generalizing n with
  | zero => cases member
  | succ width ih =>
    rcases List.mem_append.mp member with earlier | last
    · exact ih earlier
    · rw [List.mem_singleton.mp last]
      exact hexDigit_mem _ (Nat.mod_lt _ (by decide))

/-- Digits say the number they were written for, as far as they reach. -/
theorem hexNumber?_hexPadded (width n : Nat) : hexNumber? (hexPadded true width n) = some (n % 16 ^ width) := by
  induction width generalizing n with
  | zero => simp [hexPadded, hexNumber?, Nat.mod_one]
  | succ width ih =>
    have front : (hexPadded true width (n / 16)).foldlM
        (fun number digit => (hexValue? digit).map (16 * number + ·)) 0 = some (n / 16 % 16 ^ width) := ih (n / 16)
    have digit := hexValue?_hexDigit (n % 16) (Nat.mod_lt _ (by decide))
    rw [hexPadded, hexNumber?, List.foldlM_append, front]
    simp only [Option.bind_eq_bind, Option.bind_some, List.foldlM_cons, List.foldlM_nil, digit, Option.map_some]
    rw [Nat.pow_succ', Nat.mod_mul, Nat.add_comm]
    rfl

/-- So the number of some bytes is found in two digits for each of them. -/
theorem hexNumber?_ofLittleEndian {bytes : List UInt8} (width : Nat) (length : bytes.length = width) :
    hexNumber? (hexPadded true (2 * width) (ofLittleEndian bytes)) = some (ofLittleEndian bytes) := by
  have bound : ofLittleEndian bytes < 16 ^ (2 * width) := by
    rw [Nat.pow_mul, ← length]
    exact ofLittleEndian_lt bytes
  rw [hexNumber?_hexPadded, Nat.mod_eq_of_lt bound]

/-- Two digits for each byte. -/
def hexPairs (bytes : List UInt8) : List Char := bytes.flatMap fun byte => hexPadded true 2 byte.toNat

theorem length_hexPairs (bytes : List UInt8) : (hexPairs bytes).length = 2 * bytes.length := by
  induction bytes with
  | nil => rfl
  | cons byte bytes ih =>
    rw [hexPairs, List.flatMap_cons, List.length_append, length_hexPadded, ← hexPairs, ih, List.length_cons]
    omega

theorem mem_hexPairs {bytes : List UInt8} {c : Char} (member : c ∈ hexPairs bytes) : c ∈ upperDigits := by
  obtain ⟨byte, -, own⟩ := List.mem_flatMap.mp member
  exact mem_hexPadded own

/-- Bytes are found again in their digits. -/
theorem bytesOfHex_hexPairs (bytes : List UInt8) : Document.bytesOfHex (hexPairs bytes) = .ok bytes := by
  induction bytes with
  | nil => rfl
  | cons byte bytes ih =>
    have small := byte.toNat_lt
    have high := hexValue?_hexDigit (byte.toNat / 16 % 16) (Nat.mod_lt _ (by decide))
    have low := hexValue?_hexDigit (byte.toNat % 16) (Nat.mod_lt _ (by decide))
    have whole : 16 * (byte.toNat / 16 % 16) + byte.toNat % 16 = byte.toNat := by omega
    show Document.bytesOfHex (hexDigit true (byte.toNat / 16 % 16) :: hexDigit true (byte.toNat % 16) ::
      hexPairs bytes) = _
    rw [Document.bytesOfHex, high, low, ih]
    dsimp only
    rw [whole, UInt8.ofNat_toNat]
    rfl

/-- A character stands where a form has a dash, or where it has a digit. -/
def Fills (dash : Bool) (c : Char) : Prop := if dash then c = '-' else c ∈ upperDigits

/-- Groups of digits with dashes between them have their dashes where the lengths of the groups say. -/
theorem fills_intercalate {groups : List (List Char)} (digits : ∀ group ∈ groups, ∀ c ∈ group, c ∈ upperDigits) :
    List.Forall₂ Fills ([true].intercalate (groups.map fun group => List.replicate group.length false))
      (['-'].intercalate groups) := by
  have group_fills (group : List Char) (own : ∀ c ∈ group, c ∈ upperDigits) :
      List.Forall₂ Fills (List.replicate group.length false) group := by
    induction group with
    | nil => exact .nil
    | cons c group ih =>
      exact .cons (own c List.mem_cons_self) (ih fun d member => own d (List.mem_cons_of_mem c member))
  induction groups with
  | nil => exact .nil
  | cons group groups ih =>
    have first := group_fills group (digits group List.mem_cons_self)
    have others := ih fun other member => digits other (List.mem_cons_of_mem group member)
    cases groups with
    | nil => simpa only [List.map_cons, List.map_nil, List.intercalate_singleton] using first
    | cons next groups =>
      have dash : Fills true '-' := by simp [Fills]
      simp only [List.map_cons, List.intercalate_cons_cons] at others ⊢
      exact List.rel_append (List.rel_append first (.cons dash .nil)) others

end Text

/-- The words behind a UUID in registry form: a word, two half words and eight bytes in order, taken together as four
little-endian words. -/
def Uuid.words? (text : String) : Option (Vector UInt32 4) :=
  match text.toList.splitOn '-' with
  | [first, second, third, fourth, fifth] => do
    let word ← Text.hexNumber? first
    let half ← Text.hexNumber? second
    let otherHalf ← Text.hexNumber? third
    let tail ← (Document.bytesOfHex (fourth ++ fifth)).toOption
    (Wire.decodeExact (Vector UInt32 4)
      (littleEndian 4 word ++ littleEndian 2 half ++ littleEndian 2 otherHalf ++ tail)).toOption
  | _ => none

namespace ModuleEntry

/-- The sixteen bytes of the UUID as they are stored. -/
def uuidBytes (entry : ModuleEntry) : List UInt8 := Wire.write entry.uuid

/-- The digits of the UUID between its dashes. -/
def uuidGroups (entry : ModuleEntry) : List (List Char) :=
  [Text.hexPadded true 8 (ofLittleEndian (entry.uuidBytes.take 4)),
    Text.hexPadded true 4 (ofLittleEndian ((entry.uuidBytes.drop 4).take 2)),
    Text.hexPadded true 4 (ofLittleEndian ((entry.uuidBytes.drop 6).take 2)),
    Text.hexPairs ((entry.uuidBytes.drop 8).take 2),
    Text.hexPairs (entry.uuidBytes.drop 10)]

theorem toList_uuidText (entry : ModuleEntry) : entry.uuidText.toList = entry.uuidChars := String.toList_ofList

theorem length_uuidBytes (entry : ModuleEntry) : entry.uuidBytes.length = 16 :=
  Wire.Measured.length_write rfl entry.uuid

/-- The first word of the UUID is in its first four bytes. -/
theorem uuid_first (entry : ModuleEntry) {first : UInt32} {others : List UInt32}
    (words : entry.uuid.toList = first :: others) : ofLittleEndian (entry.uuidBytes.take 4) = first.toNat := by
  have front : entry.uuidBytes.take 4 = littleEndian 4 first.toNat := by
    show (entry.uuid.toList.flatMap Wire.write).take 4 = _
    rw [words, List.flatMap_cons]
    exact List.take_left' (length_littleEndian 4 _)
  have bound : first.toNat < 256 ^ 4 := first.toNat_lt
  rw [front, ofLittleEndian_littleEndian, Nat.mod_eq_of_lt bound]

theorem uuidChars_eq (entry : ModuleEntry) : entry.uuidChars = ['-'].intercalate entry.uuidGroups := by
  have bytes : entry.uuidBytes = entry.uuid.toList.flatMap Wire.write := rfl
  have some : 0 < entry.uuid.toList.length := by
    rw [Vector.length_toList]
    decide
  have words : entry.uuid.toList = entry.uuid[0] :: entry.uuid.toList.drop 1 := (List.getElem_cons_drop some).symm
  rw [uuidGroups, entry.uuid_first words]
  simp only [uuidChars, Text.hexPairs, bytes, List.intercalate_cons_cons, List.intercalate_singleton,
    List.append_assoc, List.cons_append, List.nil_append]

theorem length_uuidGroups (entry : ModuleEntry) : entry.uuidGroups.map List.length = [8, 4, 4, 4, 12] := by
  simp [uuidGroups, Text.length_hexPadded, Text.length_hexPairs, length_uuidBytes]

theorem mem_uuidGroups (entry : ModuleEntry) {group : List Char} (own : group ∈ entry.uuidGroups) :
    ∀ c ∈ group, c ∈ Text.upperDigits := by
  simp only [uuidGroups, List.mem_cons, List.not_mem_nil, or_false] at own
  rcases own with rfl | rfl | rfl | rfl | rfl
  · exact fun _ => Text.mem_hexPadded
  · exact fun _ => Text.mem_hexPadded
  · exact fun _ => Text.mem_hexPadded
  · exact fun _ => Text.mem_hexPairs
  · exact fun _ => Text.mem_hexPairs

/-- The dashes and digits of the text are where the registry form has them. -/
theorem uuidChars_fill (entry : ModuleEntry) :
    List.Forall₂ Text.Fills ((List.range 36).map fun place => place ∈ [8, 13, 18, 23]) entry.uuidChars := by
  have fills := Text.fills_intercalate fun _ own => entry.mem_uuidGroups own
  have lengths : entry.uuidGroups.map (fun group => List.replicate group.length false) =
      [8, 4, 4, 4, 12].map (List.replicate · false) := by
    rw [← length_uuidGroups entry, List.map_map]
    rfl
  have form : [true].intercalate ([8, 4, 4, 4, 12].map (List.replicate · false)) =
      (List.range 36).map fun place => decide (place ∈ [8, 13, 18, 23]) := by decide
  rwa [lengths, form, ← uuidChars_eq] at fills

/-- The dashes part the text into its groups again. -/
theorem splitOn_uuidChars (entry : ModuleEntry) : entry.uuidChars.splitOn '-' = entry.uuidGroups := by
  have none_inside : ∀ group ∈ entry.uuidGroups, '-' ∉ group := by
    intro group own member
    exact absurd (entry.mem_uuidGroups own _ member) (by decide)
  rw [uuidChars_eq, List.splitOn_intercalate '-' none_inside nofun]

/-- Every stored byte is in one of the groups, once and in its place. -/
theorem uuidBytes_parts (entry : ModuleEntry) :
    entry.uuidBytes.take 4 ++ (entry.uuidBytes.drop 4).take 2 ++ (entry.uuidBytes.drop 6).take 2 ++
      ((entry.uuidBytes.drop 8).take 2 ++ entry.uuidBytes.drop 10) = entry.uuidBytes := by
  have part (start width : Nat) :
      (entry.uuidBytes.drop start).take width ++ entry.uuidBytes.drop (start + width) = entry.uuidBytes.drop start := by
    rw [← List.drop_drop, List.take_append_drop]
  rw [part 8 2, List.append_assoc, List.append_assoc, part 6 2, part 4 2, List.take_append_drop]

/-- The words that were stored are found in the text. -/
theorem words?_uuidText (entry : ModuleEntry) : Uuid.words? entry.uuidText = some entry.uuid := by
  have lengths := entry.length_uuidBytes
  have four : (entry.uuidBytes.take 4).length = 4 := by simp [lengths]
  have half : ((entry.uuidBytes.drop 4).take 2).length = 2 := by simp [lengths]
  have otherHalf : ((entry.uuidBytes.drop 6).take 2).length = 2 := by simp [lengths]
  have tail (bytes more : List UInt8) :
      Document.bytesOfHex (Text.hexPairs bytes ++ Text.hexPairs more) = .ok (bytes ++ more) := by
    rw [← Text.bytesOfHex_hexPairs, Text.hexPairs, Text.hexPairs, Text.hexPairs, List.flatMap_append]
  have read : Wire.decodeExact (Vector UInt32 4) entry.uuidBytes = .ok entry.uuid := by
    have echoed := Wire.Faithful.echoed entry.uuid []
    rw [List.append_nil] at echoed
    rw [Wire.decodeExact, uuidBytes, echoed]
  have spelled {bytes : List UInt8} {width : Nat} (length : bytes.length = width) :
      littleEndian width (ofLittleEndian bytes) = bytes := length ▸ littleEndian_ofLittleEndian bytes
  rw [Uuid.words?, toList_uuidText, splitOn_uuidChars, uuidGroups]
  simp only [Text.hexNumber?_ofLittleEndian 4 four, Text.hexNumber?_ofLittleEndian 2 half,
    Text.hexNumber?_ofLittleEndian 2 otherHalf, tail, Except.toOption, Option.bind_eq_bind, Option.bind_some]
  rw [spelled four, spelled half, spelled otherHalf, uuidBytes_parts, read]

/-- The text of a UUID identifies it. It has the registry form, 36 upper-case digits and dashes with the dashes in four
places, the stored words are found in it, and so entries share it exactly if they have the same words. -/
theorem uuidText_identifies (entry : ModuleEntry) :
    entry.uuidText.length = 36 ∧
      (∀ place < 36, ∃ c, entry.uuidText.toList[place]? = some c ∧
        if place ∈ [8, 13, 18, 23] then c = '-' else c ∈ Text.upperDigits) ∧
      Uuid.words? entry.uuidText = some entry.uuid ∧
      ∀ other : ModuleEntry, other.uuidText = entry.uuidText ↔ other.uuid = entry.uuid := by
  have ⟨length, places⟩ := List.forall₂_iff_get.mp (uuidChars_fill entry)
  have whole : entry.uuidChars.length = 36 := length.symm
  refine ⟨?_, ?_, words?_uuidText entry, fun other => ⟨fun same => ?_, fun same => ?_⟩⟩
  · rw [← String.length_toList, toList_uuidText, whole]
  · intro place inside
    have held : place < entry.uuidChars.length := by rwa [whole]
    refine ⟨entry.uuidChars[place], by rw [toList_uuidText, List.getElem?_eq_getElem held], ?_⟩
    have fills := places place inside held
    simpa [Text.Fills] using fills
  · have found := words?_uuidText other
    rw [same, words?_uuidText entry] at found
    exact (Option.some.inj found).symm
  · rw [uuidText, uuidChars, same, ← uuidChars, ← uuidText]

end ModuleEntry

end DspInspector

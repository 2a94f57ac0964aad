import DspInspector.Tlv.Record
import DspInspector.Proofs.Wire.Echo

/-!
# Cutting a buffer into records

The reader of records finds exactly the records that were written (`read_write`, `of_read`), so every
buffer falls apart in one way only: some complete records and a tail that no complete record begins
(`Cut`, `exists_cut`, `Cut.unique`).
-/

namespace DspInspector.Tlv

open Decoder Wire

namespace Record

theorem write_eq {record : Record} (fits : Fits record.value) :
    record.write = Wire.write record.tag ++
      (Wire.write (UInt32.ofNat record.value.length) ++ record.value) := by
  have length : (UInt32.ofNat record.value.length).toNat = record.value.length :=
    UInt32.toNat_ofNat_of_lt' fits
  show Wire.write record.tag ++ littleEndian 4 record.value.length ++ record.value =
    Wire.write record.tag ++ (littleEndian 4 (UInt32.ofNat record.value.length).toNat ++ record.value)
  rw [length, List.append_assoc]

theorem length_write (record : Record) : record.write.length = 8 + record.value.length := by
  have tag : (Wire.write record.tag).length = 4 := length_littleEndian 4 _
  have count : (littleEndian 4 record.value.length).length = 4 := length_littleEndian 4 _
  rw [Record.write, List.length_append, List.length_append, tag, count]

theorem write_append_ne_nil (record : Record) (rest : List UInt8) : record.write ++ rest ≠ [] := by
  intro empty
  have length := congrArg List.length empty
  rw [List.length_append, Record.length_write, List.length_nil] at length
  omega

/-- A written record is read back, whatever follows it. -/
theorem read_write {record : Record} (fits : Fits record.value) (rest : List UInt8) :
    Record.read (record.write ++ rest) = .ok record rest := by
  have length : (UInt32.ofNat record.value.length).toNat = record.value.length :=
    UInt32.toNat_ofNat_of_lt' fits
  rw [write_eq fits, List.append_assoc, List.append_assoc]
  refine (bind_ok (Faithful.echoed record.tag _)).trans ?_
  refine (bind_ok (Faithful.echoed (UInt32.ofNat record.value.length) _)).trans ?_
  rw [length]
  have enough : record.value.length ≤ (record.value ++ rest).length := by simp
  refine (bind_ok (take_of_le enough)).trans ?_
  rw [List.take_left, List.drop_left]
  rfl

/-- A record that was read stood there as it is written. -/
theorem of_read {bytes rest : List UInt8} {record : Record} (read : Record.read bytes = .ok record rest) :
    bytes = record.write ++ rest ∧ Fits record.value := by
  have word : ∀ n < 256 ^ 4, (UInt32.ofNat n).toNat = n := fun n bound => UInt32.toNat_ofNat_of_lt' bound
  obtain ⟨tag, behindTag, readTag, read⟩ := bind_eq_ok read
  obtain ⟨length, behindLength, readLength, read⟩ := bind_eq_ok read
  obtain ⟨value, behindValue, took, whole⟩ := bind_eq_ok read
  cases whole
  have tagged := of_read_word word readTag
  have measured := of_read_word word readLength
  rw [take_eq] at took
  split at took
  · rename_i enough
    cases took
    have taken : (behindLength.take length.toNat).length = length.toNat := List.length_take_of_le enough
    have fits : Fits (behindLength.take length.toNat) := by
      rw [Fits, taken]
      exact length.toNat_lt
    refine ⟨?_, fits⟩
    rw [write_eq fits, tagged, measured, taken, UInt32.ofNat_toNat, List.append_assoc, List.append_assoc,
      List.take_append_drop]
    rfl
  · cases took

/-- Only the end of the buffer stops the reader, and then nothing is left. -/
theorem read_error {bytes rest : List UInt8} {cause : WireError}
    (failure : Record.read bytes = .error cause rest) : cause = .endOfStream ∧ rest = [] := by
  refine ⟨?_, rest_of_read_error failure⟩
  simp only [Record.read, bind, EStateM.bind, Wire.read, take_eq, pure, EStateM.pure] at failure
  grind

end Record

theorem writeAll_cons (record : Record) (records : List Record) :
    writeAll (record :: records) = record.write ++ writeAll records := List.flatMap_cons

/-- No complete record stands at the front of the bytes. -/
def Incomplete (bytes : List UInt8) : Prop :=
  ∀ (record : Record) (rest : List UInt8), Fits record.value → bytes ≠ record.write ++ rest

theorem Incomplete.read {bytes : List UInt8} (incomplete : Incomplete bytes) :
    Record.read bytes = .error .endOfStream [] := by
  cases read : Record.read bytes with
  | ok record rest =>
    obtain ⟨whole, fits⟩ := Record.of_read read
    exact absurd whole (incomplete record rest fits)
  | error cause rest =>
    obtain ⟨rfl, rfl⟩ := Record.read_error read
    rfl

/-- Too few bytes for a tag and a length. -/
theorem incomplete_of_length_lt {bytes : List UInt8} (short : bytes.length < 8) : Incomplete bytes := by
  rintro record rest - rfl
  rw [List.length_append, Record.length_write] at short
  omega

/-- The bytes are some complete records and a tail that no complete record begins. -/
structure Cut (bytes : List UInt8) (records : List Record) (tail : List UInt8) : Prop where
  whole : bytes = writeAll records ++ tail
  fits : ∀ record ∈ records, Fits record.value
  incomplete : Incomplete tail

theorem Cut.cons {bytes tail : List UInt8} {records : List Record} {record : Record}
    (fits : Fits record.value) (cut : Cut bytes records tail) :
    Cut (record.write ++ bytes) (record :: records) tail where
  whole := by rw [cut.whole, writeAll_cons, List.append_assoc]
  fits := List.forall_mem_cons.mpr ⟨fits, cut.fits⟩
  incomplete := cut.incomplete

theorem exists_cut (bytes : List UInt8) : ∃ records tail, Cut bytes records tail := by
  cases read : Record.read bytes with
  | error cause rest =>
    refine ⟨[], bytes, rfl, by simp, ?_⟩
    rintro record later fits rfl
    rw [Record.read_write fits] at read
    cases read
  | ok record rest =>
    obtain ⟨whole, fits⟩ := Record.of_read read
    have shorter := Record.length_of_read_ok read
    obtain ⟨records, tail, cut⟩ := exists_cut rest
    exact ⟨record :: records, tail, whole ▸ cut.cons fits⟩
termination_by bytes.length

theorem Cut.unique {bytes tail otherTail : List UInt8} {records others : List Record}
    (cut : Cut bytes records tail) (other : Cut bytes others otherTail) :
    records = others ∧ tail = otherTail := by
  induction records generalizing bytes others with
  | nil =>
    have front := cut.whole.symm.trans other.whole
    cases others with
    | nil => exact ⟨rfl, front⟩
    | cons record others =>
      rw [writeAll_cons, List.append_assoc] at front
      exact absurd front (cut.incomplete record _ (other.fits record List.mem_cons_self))
  | cons record records ih =>
    have front := cut.whole.symm.trans other.whole
    have fits := cut.fits record List.mem_cons_self
    rw [writeAll_cons, List.append_assoc] at front
    cases others with
    | nil => exact absurd front.symm (other.incomplete record _ fits)
    | cons otherRecord others =>
      have otherFits := other.fits otherRecord List.mem_cons_self
      have reads := Record.read_write fits (writeAll records ++ tail)
      rw [front, writeAll_cons, List.append_assoc, Record.read_write otherFits] at reads
      injection reads with same rest
      have later : Cut (writeAll records ++ tail) records tail :=
        ⟨rfl, fun record member => cut.fits record (List.mem_cons_of_mem _ member), cut.incomplete⟩
      have otherLater : Cut (writeAll records ++ tail) others otherTail :=
        ⟨rest.symm, fun record member => other.fits record (List.mem_cons_of_mem _ member),
          other.incomplete⟩
      obtain ⟨rfl, tails⟩ := ih later otherLater
      exact ⟨by rw [same], tails⟩

end DspInspector.Tlv

import DspInspector.Tlv.Record
import DspInspector.Tlv.Dictionary

/-!
# Unpacking tagged records

A response is unpacked record by record. A record that cannot be filed is reported and skipped; only
a buffer that ends inside a record ends the unpacking early. The fields are emptied first, so that
nothing of an earlier response survives.
-/

namespace DspInspector.Tlv

/-- The fields filled so far and the bytes of the records to come. -/
structure Unpacking (σ : Type) where
  fields : σ
  rest : List UInt8

/-- Files one record. -/
def Dictionary.file {σ : Type} (dictionary : Dictionary σ) (record : Record) :
    EStateM RecordError σ Unit := fun fields =>
  match dictionary.find? record.tag with
  | none => .error (.unknownTag record.tag) fields
  | some slot =>
    if slot.accepts record.value.length then
      match slot.store record.value fields with
      | .ok _ filed => .ok () filed
      | .error cause filed => .error (.badValue record.tag cause) filed
    else .error (.badSize record.tag record.value.length) fields

namespace Unpacking

variable {σ : Type}

/-- Empties the registered fields and stands in front of the first record. -/
def start (dictionary : Dictionary σ) (fields : σ) (bytes : List UInt8) : Unpacking σ :=
  ⟨dictionary.clear fields, bytes⟩

/-- Reads the next record and files it; false when there is none. After a failure the record is
behind, or the whole buffer when the record was cut short. -/
def next (dictionary : Dictionary σ) : EStateM RecordError (Unpacking σ) Bool := fun unpacking =>
  match unpacking.rest with
  | [] => .ok false unpacking
  | byte :: bytes =>
    match Record.read (byte :: bytes) with
    | .error cause rest => .error (.unreadable cause) ⟨unpacking.fields, rest⟩
    | .ok record rest =>
      match dictionary.file record unpacking.fields with
      | .ok _ fields => .ok true ⟨fields, rest⟩
      | .error cause fields => .error cause ⟨fields, rest⟩

/-- The bytes left by a step that did not find the end are fewer than before. -/
theorem length_of_next (dictionary : Dictionary σ) (unpacking : Unpacking σ) :
    (∀ after, next dictionary unpacking = .ok true after →
      after.rest.length < unpacking.rest.length) ∧
    (∀ cause after, next dictionary unpacking = .error cause after →
      after.rest.length < unpacking.rest.length) := by
  obtain ⟨fields, rest⟩ := unpacking
  cases rest with
  | nil => simp [next]
  | cons byte bytes =>
    simp only [next]
    cases read : Record.read (byte :: bytes) with
    | error cause rest =>
      have empty := Record.rest_of_read_error read
      refine ⟨by simp, ?_⟩
      rintro _ _ ⟨⟩
      simp [empty]
    | ok record rest =>
      have shorter := Record.length_of_read_ok read
      dsimp only
      cases dictionary.file record fields with
      | ok _ filed =>
        refine ⟨?_, by simp⟩
        rintro _ ⟨⟩
        dsimp only
        omega
      | error cause filed =>
        refine ⟨by simp, ?_⟩
        rintro _ _ ⟨⟩
        dsimp only
        omega

/-- Files every record and collects the failures in order. -/
def all (dictionary : Dictionary σ) (unpacking : Unpacking σ) : List RecordError × Unpacking σ :=
  match _ : next dictionary unpacking with
  | .ok false after => ([], after)
  | .ok true after => all dictionary after
  | .error cause after =>
    let (causes, final) := all dictionary after
    (cause :: causes, final)
termination_by unpacking.rest.length
decreasing_by
  · exact (length_of_next dictionary unpacking).1 after ‹_›
  · exact (length_of_next dictionary unpacking).2 cause after ‹_›

end Unpacking

end DspInspector.Tlv

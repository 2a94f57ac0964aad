import DspInspector.Proofs.Tlv.Unpacking
import Mathlib.Data.List.ReduceOption

/-!
# Progress through a buffer

Callers ask for the next record until there is none, so each answer has to bring the end nearer, and a record that
is refused must not hide the one behind it. Every call that finds something takes a complete record from the front,
or all that is left when no complete record begins there (`Step`). What follows is about the bytes alone: the
number of calls, the place where they end, and where the next record starts.
-/

namespace DspInspector.Tlv

variable {σ : Type}

/-- The values of the kind take bytes where they are read one after the other. -/
def Kind.Advancing : Kind σ → Prop
  | sequence format _ => Decoder.Consuming format.read
  | _ => True

theorem Kind.store_ne_endless {kind : Kind σ} (advancing : kind.Advancing) (bytes : List UInt8) (fields filed : σ) :
    kind.slot.store bytes fields ≠ .error .endless filed := by
  intro endless
  cases kind with
  | scalar format field =>
    simp only [slot, Slot.scalar] at endless
    split at endless <;> cases endless
  | sequence format field =>
    simp only [slot, Slot.sequence] at endless
    obtain ⟨values, whole, -⟩ | ⟨cause, broken, -⟩ := elements_eq advancing bytes
    · rw [whole] at endless
      cases endless
    · rw [broken] at endless
      cases endless
  | ignored => cases endless

/-- No list is read for ever. -/
theorem file_ne_endless {registrations : List (UInt32 × Kind σ)}
    (advancing : ∀ registration ∈ registrations, registration.2.Advancing) (record : Record) (tag : UInt32)
    (fields filed : σ) :
    (registered registrations).file record fields ≠ .error (.badValue tag .endless) filed := by
  intro endless
  simp only [Dictionary.file, find?_registered] at endless
  cases found : inForce registrations record.tag with
  | none =>
    rw [found] at endless
    cases endless
  | some kind =>
    have finite := kind.store_ne_endless (advancing _ (mem_of_inForce found)) record.value fields
    simp only [found, Option.map_some] at endless
    split at endless
    · split at endless
      · cases endless
      · rename_i stored
        cases endless
        exact finite _ stored
    · cases endless

theorem exists_settle (dictionary : Dictionary σ) (record : Record) (fields : σ) :
    ∃ complaint filed, dictionary.file record fields = settle complaint filed := by
  cases file : dictionary.file record fields with
  | ok _ filed => exact ⟨none, filed, rfl⟩
  | error cause filed => exact ⟨some cause, filed, rfl⟩

namespace Unpacking

variable {dictionary : Dictionary σ} {unpacking between after : Unpacking σ} {complaint : Option RecordError}

theorem told_inj {other : Option RecordError} {final : Unpacking σ} (same : told complaint after = told other final) :
    complaint = other ∧ after = final := by
  cases complaint <;> cases other <;> cases same <;> exact ⟨rfl, rfl⟩

theorem told_ne_end : told complaint after ≠ .ok false between := by
  cases complaint <;> nofun

/-- All that a call can find: a complete record, which is filed, or a tail, which is given up. -/
inductive Step (dictionary : Dictionary σ) : Unpacking σ → Option RecordError → Unpacking σ → Prop where
  | record {record : Record} {fields filed : σ} {complaint : Option RecordError} {rest : List UInt8}
    (fits : Wire.Fits record.value) (file : dictionary.file record fields = settle complaint filed) :
    Step dictionary ⟨fields, record.write ++ rest⟩ complaint ⟨filed, rest⟩
  | tail {fields : σ} {tail : List UInt8} (more : tail ≠ []) (incomplete : Incomplete tail) :
    Step dictionary ⟨fields, tail⟩ (some (.unreadable .endOfStream)) ⟨fields, []⟩

theorem exists_step (dictionary : Dictionary σ) (more : unpacking.rest ≠ []) :
    ∃ complaint after, Step dictionary unpacking complaint after := by
  obtain ⟨fields, bytes⟩ := unpacking
  by_cases complete : ∃ record rest, Wire.Fits record.value ∧ bytes = Record.write record ++ rest
  · obtain ⟨record, rest, fits, rfl⟩ := complete
    obtain ⟨complaint, filed, file⟩ := exists_settle dictionary record fields
    exact ⟨complaint, ⟨filed, rest⟩, .record fits file⟩
  · have incomplete : Incomplete bytes := fun record rest fits whole => complete ⟨record, rest, fits, whole⟩
    exact ⟨_, _, .tail more incomplete⟩

theorem Step.next_eq (step : Step dictionary unpacking complaint after) :
    next dictionary unpacking = told complaint after := by
  cases step with
  | record fits file => exact next_record fits file
  | tail more incomplete => exact next_incomplete dictionary _ more incomplete

theorem Step.advances (step : Step dictionary unpacking complaint after) :
    ∃ taken, taken ≠ [] ∧ unpacking.rest = taken ++ after.rest := by
  cases step with
  | @record record =>
    refine ⟨record.write, ?_, rfl⟩
    simpa using record.write_append_ne_nil []
  | tail more => exact ⟨_, more, (List.append_nil _).symm⟩

/-- A record has at least a tag and a length. -/
theorem Step.length_le (step : Step dictionary unpacking complaint after) :
    after.rest = [] ∨ after.rest.length + 8 ≤ unpacking.rest.length := by
  cases step with
  | @record record =>
    right
    rw [List.length_append, Record.length_write]
    dsimp only
    omega
  | tail => exact .inl rfl

/-- Calling until there is no record more: what each call said, and where the last one left off. -/
inductive Reads (dictionary : Dictionary σ) : Unpacking σ → List (Option RecordError) → Unpacking σ → Prop where
  | done {unpacking after : Unpacking σ} (ends : next dictionary unpacking = .ok false after) :
    Reads dictionary unpacking [] after
  | more {unpacking between after : Unpacking σ} {complaint : Option RecordError} {results : List (Option RecordError)}
    (first : next dictionary unpacking = told complaint between) (others : Reads dictionary between results after) :
    Reads dictionary unpacking (complaint :: results) after

variable {results : List (Option RecordError)}

theorem reads_cons_iff (first : next dictionary unpacking = told complaint between) :
    Reads dictionary unpacking results after ↔
      ∃ later, results = complaint :: later ∧ Reads dictionary between later after := by
  constructor
  · intro reads
    cases reads with
    | done ends => exact absurd (first.symm.trans ends) told_ne_end
    | more again others =>
      obtain ⟨rfl, rfl⟩ := told_inj (again.symm.trans first)
      exact ⟨_, rfl, others⟩
  · rintro ⟨later, rfl, others⟩
    exact .more first others

theorem reads_at_end {fields : σ} (reads : Reads dictionary ⟨fields, []⟩ results after) :
    results = [] ∧ after = ⟨fields, []⟩ := by
  cases reads with
  | done ends =>
    cases ends
    exact ⟨rfl, rfl⟩
  | more first => exact absurd first.symm told_ne_end

/-- The calls end, each of them nearer to the end of the buffer. -/
theorem exists_reads (dictionary : Dictionary σ) (unpacking : Unpacking σ) :
    ∃ results fields, Reads dictionary unpacking results ⟨fields, []⟩ := by
  by_cases more : unpacking.rest = []
  · obtain ⟨fields, _⟩ := unpacking
    cases more
    exact ⟨[], fields, .done (next_at_end dictionary fields)⟩
  · obtain ⟨complaint, between, step⟩ := exists_step dictionary more
    have shorter : between.rest.length < unpacking.rest.length := by
      obtain ⟨taken, some, whole⟩ := step.advances
      have := List.length_pos_iff.mpr some
      rw [whole, List.length_append]
      omega
    obtain ⟨results, fields, others⟩ := exists_reads dictionary between
    exact ⟨complaint :: results, fields, .more step.next_eq others⟩
termination_by unpacking.rest.length

theorem Reads.unique {others : List (Option RecordError)} {final : Unpacking σ}
    (one : Reads dictionary unpacking results after) (two : Reads dictionary unpacking others final) :
    others = results ∧ final = after := by
  induction one generalizing others with
  | done ends =>
    cases two with
    | done again =>
      cases again.symm.trans ends
      exact ⟨rfl, rfl⟩
    | more first => exact absurd (first.symm.trans ends) told_ne_end
  | more first _ ih =>
    obtain ⟨later, rfl, rest⟩ := (reads_cons_iff first).mp two
    obtain ⟨rfl, rfl⟩ := ih rest
    exact ⟨rfl, rfl⟩

/-- All records but the last take eight bytes. -/
theorem Reads.length_le (reads : Reads dictionary unpacking results after) :
    results.length ≤ unpacking.rest.length / 8 + 1 := by
  induction reads with
  | done => exact Nat.zero_le _
  | @more unpacking between after complaint results first others ih =>
    have more : unpacking.rest ≠ [] := by
      obtain ⟨fields, bytes⟩ := unpacking
      rintro rfl
      exact told_ne_end first.symm
    -- a call has one result, so the step there is to make is the one that was made
    obtain ⟨_, _, step⟩ := exists_step dictionary more
    obtain ⟨rfl, rfl⟩ := told_inj (first.symm.trans step.next_eq)
    rw [List.length_cons]
    rcases step.length_le with last | shorter
    · obtain ⟨fields, bytes⟩ := between
      cases last
      obtain ⟨rfl, -⟩ := reads_at_end others
      exact Nat.le_add_left 1 _
    · omega

/-- Collecting the complaints is calling until there is no record more. -/
theorem Reads.all_eq (reads : Reads dictionary unpacking results after) :
    all dictionary unpacking = (results.reduceOption, after) := by
  induction reads with
  | done ends => exact all_of_end ends
  | @more unpacking between after complaint results first others ih =>
    rw [all_of_told first, ih]
    cases complaint with
    | none => rfl
    | some cause => rfl

end Unpacking

open Unpacking

/-- Where the elements of lists take bytes, each call that finds something moves forward, never by reading for
ever. Calling until there is no record more ends, in one way, at the end of the buffer, and after no more calls
than there are heads of records in it and one. And a complete record, refused or not, leaves the reader in front of
what follows it: the results from there are those of the rest alone, with the fields as the record left them. -/
theorem unpacking_progresses (registrations : List (UInt32 × Kind σ))
    (advancing : ∀ registration ∈ registrations, registration.2.Advancing) :
    (∀ unpacking : Unpacking σ,
      (unpacking.rest = [] ∧ next (registered registrations) unpacking = .ok false unpacking) ∨
      ∃ complaint after, next (registered registrations) unpacking = told complaint after ∧
        (∃ taken, taken ≠ [] ∧ unpacking.rest = taken ++ after.rest) ∧
        ∀ tag, complaint ≠ some (.badValue tag .endless)) ∧
    (∀ unpacking : Unpacking σ, ∃ results after,
      (∀ others final, Reads (registered registrations) unpacking others final ↔ others = results ∧ final = after) ∧
      results.length ≤ unpacking.rest.length / 8 + 1 ∧ after.rest = [] ∧
      all (registered registrations) unpacking = (results.reduceOption, after)) ∧
    ∀ record : Record, Wire.Fits record.value → ∀ fields, ∃ complaint filed,
      (registered registrations).file record fields = settle complaint filed ∧
      ∀ rest,
        next (registered registrations) ⟨fields, record.write ++ rest⟩ = told complaint ⟨filed, rest⟩ ∧
        (∀ results final, Reads (registered registrations) ⟨fields, record.write ++ rest⟩ results final ↔
          ∃ later, results = complaint :: later ∧ Reads (registered registrations) ⟨filed, rest⟩ later final) ∧
        all (registered registrations) ⟨fields, record.write ++ rest⟩ =
          (complaint.toList ++ (all (registered registrations) ⟨filed, rest⟩).1,
            (all (registered registrations) ⟨filed, rest⟩).2) := by
  refine ⟨?_, ?_, ?_⟩
  · intro unpacking
    by_cases more : unpacking.rest = []
    · obtain ⟨fields, _⟩ := unpacking
      cases more
      exact .inl ⟨rfl, next_at_end _ fields⟩
    · obtain ⟨complaint, after, step⟩ := exists_step (registered registrations) more
      refine .inr ⟨complaint, after, step.next_eq, step.advances, ?_⟩
      rintro tag rfl
      cases step with
      | record _ file => exact file_ne_endless advancing _ tag _ _ file
  · intro unpacking
    obtain ⟨results, fields, reads⟩ := exists_reads (registered registrations) unpacking
    refine ⟨results, ⟨fields, []⟩, fun others final => ⟨reads.unique, ?_⟩, reads.length_le, rfl, reads.all_eq⟩
    rintro ⟨rfl, rfl⟩
    exact reads
  · intro record fits fields
    obtain ⟨complaint, filed, file⟩ := exists_settle (registered registrations) record fields
    refine ⟨complaint, filed, file, fun rest => ?_⟩
    have step : Step (registered registrations) ⟨fields, record.write ++ rest⟩ complaint ⟨filed, rest⟩ :=
      .record fits file
    exact ⟨step.next_eq, fun results final => reads_cons_iff step.next_eq, all_record _ fits file⟩

/-- A number of a wrong size is passed over, and the sample of 55 bytes is read in at most seven calls. -/
theorem unpacking_progresses_sample :
    (∀ registration ∈ sampleRegistrations, registration.2.Advancing) ∧
    (∀ rest, next (registered sampleRegistrations) ⟨(some 7, []), Record.write ⟨1, [5]⟩ ++ rest⟩ =
      .error (.badSize 1 1) ⟨(some 7, []), rest⟩) ∧
    ∃ results after, results.length ≤ 7 ∧ after.rest = [] ∧
      Reads (registered sampleRegistrations) ⟨(none, []), writeAll sampleRecords ++ [1, 0, 0]⟩ results after := by
  have advancing : ∀ registration ∈ sampleRegistrations, registration.2.Advancing := by
    intro registration listed
    simp only [sampleRegistrations, List.mem_cons, List.not_mem_nil, or_false] at listed
    rcases listed with rfl | rfl | rfl
    · trivial
    · exact (Decoder.consuming_take (by decide)).bind fun _ =>
        Decoder.forward_many ((Decoder.forward_take 1).bind fun _ => Decoder.forward_pure _) _
    · trivial
  obtain ⟨-, ending, resuming⟩ := unpacking_progresses sampleRegistrations advancing
  refine ⟨advancing, ?_, ?_⟩
  · have fits : Wire.Fits (Record.mk 1 [5]).value := by
      show 1 < UInt32.size
      decide
    obtain ⟨complaint, filed, file, reading⟩ := resuming ⟨1, [5]⟩ fits (some 7, [])
    have refused : (registered sampleRegistrations).file ⟨1, [5]⟩ (some 7, []) =
        settle (some (.badSize 1 1)) (some 7, []) := rfl
    cases complaint with
    | none => cases refused.symm.trans file
    | some cause =>
      cases refused.symm.trans file
      exact fun rest => (reading rest).1
  · obtain ⟨results, after, reads, short, ended, -⟩ :=
      ending ⟨(none, []), writeAll sampleRecords ++ [1, 0, 0]⟩
    exact ⟨results, after, short, ended, (reads _ _).mpr ⟨rfl, rfl⟩⟩

end DspInspector.Tlv

import DspInspector.Proofs.Tlv.Framing
import DspInspector.Proofs.Tlv.Registration
import Mathlib.Data.List.Forall2

/-!
# Unpacking a list of records

Whatever a buffer holds, unpacking it means going through its complete records one by one
(`all_eq`). Each record has its outcome by itself, so a complaint about one does not touch the others,
and a field follows the records of its own tag only (`Separate.holds`). `unpack_records` puts this
together for a dictionary built by any registrations.
-/

namespace DspInspector.Tlv

variable {σ γ : Type}

/-! ## Going through the records -/

namespace Unpacking

/-- The result of a call that found something. -/
def told (complaint : Option RecordError) (after : Unpacking σ) : EStateM.Result RecordError (Unpacking σ) Bool :=
  match complaint with
  | none => .ok true after
  | some cause => .error cause after

section Calls

variable {dictionary : Dictionary σ} {unpacking after : Unpacking σ} {complaint : Option RecordError} {fields : σ}

theorem next_at_end (dictionary : Dictionary σ) (fields : σ) :
    next dictionary ⟨fields, []⟩ = .ok false ⟨fields, []⟩ := rfl

theorem next_of_ne_nil (dictionary : Dictionary σ) (fields : σ) {bytes : List UInt8} (some : bytes ≠ []) :
    next dictionary ⟨fields, bytes⟩ =
      match Record.read bytes with
      | .error cause rest => .error (.unreadable cause) ⟨fields, rest⟩
      | .ok record rest =>
        match dictionary.file record fields with
        | .ok _ fields => .ok true ⟨fields, rest⟩
        | .error cause fields => .error cause ⟨fields, rest⟩ := by
  cases bytes with
  | nil => exact absurd rfl some
  | cons byte bytes => rfl

/-- A buffer that ends inside a record is given up. -/
theorem next_incomplete (dictionary : Dictionary σ) (fields : σ) {tail : List UInt8} (some : tail ≠ [])
    (incomplete : Incomplete tail) :
    next dictionary ⟨fields, tail⟩ = told (.some (.unreadable .endOfStream)) ⟨fields, []⟩ := by
  rw [next_of_ne_nil dictionary fields some, incomplete.read]
  rfl

/-- A complete record is filed, and the rest is left. -/
theorem next_record {record : Record} (fits : Wire.Fits record.value) {filed : σ} {rest : List UInt8}
    (file : dictionary.file record fields = settle complaint filed) :
    next dictionary ⟨fields, record.write ++ rest⟩ = told complaint ⟨filed, rest⟩ := by
  rw [next_of_ne_nil dictionary fields (record.write_append_ne_nil rest), Record.read_write fits]
  simp only [file]
  cases complaint <;> rfl

theorem all_of_end (ends : next dictionary unpacking = .ok false after) : all dictionary unpacking = ([], after) := by
  rw [all]
  split
  · rename_i stops
    cases ends.symm.trans stops
    rfl
  · rename_i goes
    cases ends.symm.trans goes
  · rename_i fails
    cases ends.symm.trans fails

theorem all_of_told (first : next dictionary unpacking = told complaint after) :
    all dictionary unpacking = (complaint.toList ++ (all dictionary after).1, (all dictionary after).2) := by
  rw [all]
  cases complaint with
  | none =>
    split
    · rename_i stops
      cases first.symm.trans stops
    · rename_i goes
      cases first.symm.trans goes
      rfl
    · rename_i fails
      cases first.symm.trans fails
  | some cause =>
    split
    · rename_i stops
      cases first.symm.trans stops
    · rename_i goes
      cases first.symm.trans goes
    · rename_i fails
      cases first.symm.trans fails
      rfl

end Calls

theorem all_nil (dictionary : Dictionary σ) (fields : σ) : all dictionary ⟨fields, []⟩ = ([], ⟨fields, []⟩) :=
  all_of_end (next_at_end dictionary fields)

/-- A buffer that ends inside a record gives one complaint. -/
theorem all_incomplete (dictionary : Dictionary σ) (fields : σ) {tail : List UInt8} (some : tail ≠ [])
    (incomplete : Incomplete tail) :
    all dictionary ⟨fields, tail⟩ = ([.unreadable .endOfStream], ⟨fields, []⟩) := by
  rw [all_of_told (next_incomplete dictionary fields some incomplete), all_nil]
  rfl

/-- A complete record is filed and the rest follows. -/
theorem all_record (dictionary : Dictionary σ) {record : Record} (fits : Wire.Fits record.value)
    {complaint : Option RecordError} {fields filed : σ} {rest : List UInt8}
    (file : dictionary.file record fields = settle complaint filed) :
    all dictionary ⟨fields, record.write ++ rest⟩ =
      (complaint.toList ++ (all dictionary ⟨filed, rest⟩).1, (all dictionary ⟨filed, rest⟩).2) :=
  all_of_told (next_record fits file)

end Unpacking

variable {registrations : List (UInt32 × Kind σ)}

/-- What is reported about the bytes behind the last complete record. -/
def trailing (tail : List UInt8) : List RecordError := if tail = [] then [] else [.unreadable .endOfStream]

/-- The complaint about a record and the change it makes to the fields. -/
abbrev Treatment (σ : Type) := Option RecordError × (σ → σ)

/-- The treatments of records in order, each as the registrations say. -/
abbrev Treated (registrations : List (UInt32 × Kind σ)) (records : List Record)
    (treatments : List (Treatment σ)) : Prop :=
  List.Forall₂ (fun record treatment => Outcome registrations record treatment.1 treatment.2) records treatments

/-- The fields after some treatments. -/
def afterwards (treatments : List (Treatment σ)) (fields : σ) : σ :=
  treatments.foldl (fun fields treatment => treatment.2 fields) fields

/-- Unpacking treats the complete records one after the other. -/
theorem all_eq (separate : Separate registrations) {bytes tail : List UInt8} {records : List Record}
    (cut : Cut bytes records tail) :
    ∃ treatments, Treated registrations records treatments ∧ ∀ fields,
      Unpacking.all (registered registrations) ⟨fields, bytes⟩ =
        (treatments.filterMap Prod.fst ++ trailing tail, ⟨afterwards treatments fields, []⟩) := by
  obtain ⟨rfl, fits, incomplete⟩ := cut
  induction records with
  | nil =>
    refine ⟨[], .nil, fun fields => ?_⟩
    by_cases empty : tail = []
    · rw [empty]
      exact Unpacking.all_nil _ fields
    · rw [trailing, if_neg empty]
      exact Unpacking.all_incomplete _ fields empty incomplete
  | cons record records ih =>
    obtain ⟨first, others⟩ := List.forall_mem_cons.mp fits
    obtain ⟨complaint, effect, outcome, files⟩ := file_eq separate record
    obtain ⟨treatments, treated, run⟩ := ih others
    refine ⟨(complaint, effect) :: treatments, .cons outcome treated, fun fields => ?_⟩
    rw [writeAll_cons, List.append_assoc, Unpacking.all_record _ first (files fields), run]
    cases complaint with
    | none => rfl
    | some cause => rfl

/-! ## Following one field -/

theorem Treated.leaves {records : List Record} {treatments : List (Treatment σ)}
    (treated : Treated registrations records treatments) {view : σ → γ}
    (leaves : ∀ registration ∈ registrations, registration.2.Leaves view) (fields : σ) :
    view (afterwards treatments fields) = view fields := by
  induction treated generalizing fields with
  | nil => rfl
  | cons outcome _ ih =>
    exact (ih _).trans (outcome.leaves (fun kind found => leaves _ (mem_of_inForce found)) fields)

section Split

variable {earlier later : List (UInt32 × Kind σ)} {tag : UInt32} {kind : Kind σ}

/-- The registrations around one leave its field alone. -/
theorem Separate.around (separate : Separate registrations)
    (split : registrations = earlier ++ (tag, kind) :: later) :
    (∀ other ∈ earlier, other.2.Leaves kind.content) ∧ ∀ other ∈ later, other.2.Leaves kind.content := by
  have apart := separate.apart
  rw [split, List.pairwise_append] at apart
  obtain ⟨_, behind, before⟩ := apart
  constructor
  · intro other member
    exact (before other member _ List.mem_cons_self).1
  · intro other member
    exact ((List.pairwise_cons.mp behind).1 other member).2

theorem inForce_split (split : registrations = earlier ++ (tag, kind) :: later) (sought : UInt32) :
    inForce registrations sought = (inForce later sought).or
      ((if tag = sought then some kind else none).or (inForce earlier sought)) := by
  have apart : registrations = earlier ++ ([(tag, kind)] ++ later) := split
  rw [apart, inForce_append, inForce_append, inForce_singleton, Option.or_assoc]

theorem inForce_eq_none {sought : UInt32} (absent : sought ∉ registrations.map Prod.fst) :
    inForce registrations sought = none := by
  cases found : inForce registrations sought with
  | none => rfl
  | some other => exact absurd (List.mem_map_of_mem (f := Prod.fst) (mem_of_inForce found)) absent

theorem exists_inForce {sought : UInt32} (member : sought ∈ registrations.map Prod.fst) :
    ∃ other, inForce registrations sought = some other := by
  obtain ⟨registration, listed, rfl⟩ := List.mem_map.mp member
  obtain ⟨before, behind, whole⟩ := List.append_of_mem listed
  rw [inForce_split whole, if_pos rfl]
  cases inForce behind registration.1 with
  | none => exact ⟨registration.2, rfl⟩
  | some other => exact ⟨other, rfl⟩

/-- Records that do not go to the field do not show in it. -/
theorem Separate.leaves_elsewhere (separate : Separate registrations)
    (split : registrations = earlier ++ (tag, kind) :: later) {sought : UInt32} {other : Kind σ}
    (elsewhere : tag ≠ sought ∨ tag ∈ later.map Prod.fst)
    (found : inForce registrations sought = some other) : other.Leaves kind.content := by
  obtain ⟨before, behind⟩ := separate.around split
  rw [inForce_split split] at found
  cases last : inForce later sought with
  | some latest =>
    rw [last] at found
    cases found
    exact behind _ (mem_of_inForce last)
  | none =>
    rw [last, Option.none_or] at found
    by_cases same : tag = sought
    · have replaced := elsewhere.resolve_left (not_not_intro same)
      obtain ⟨latest, again⟩ := exists_inForce replaced
      rw [same, last] at again
      cases again
    · rw [if_neg same, Option.none_or] at found
      exact before _ (mem_of_inForce found)

/-- The records that reach a field: those of its tag, or none when the tag was registered again. -/
def reaching (tag : UInt32) (later : List (UInt32 × Kind σ)) (records : List Record) : List Record :=
  if tag ∈ later.map Prod.fst then [] else records.filter (·.tag == tag)

theorem reaching_nil (tag : UInt32) (later : List (UInt32 × Kind σ)) : reaching tag later [] = [] := by
  rw [reaching, List.filter_nil, ite_self]

theorem reaching_cons_own {record : Record} (own : tag = record.tag) (last : tag ∉ later.map Prod.fst)
    (records : List Record) :
    reaching tag later (record :: records) = record :: reaching tag later records := by
  rw [reaching, if_neg last, reaching, if_neg last, List.filter_cons_of_pos (by simp [own])]

theorem reaching_cons_elsewhere {record : Record} (elsewhere : tag ≠ record.tag ∨ tag ∈ later.map Prod.fst)
    (records : List Record) : reaching tag later (record :: records) = reaching tag later records := by
  by_cases replaced : tag ∈ later.map Prod.fst
  · rw [reaching, if_pos replaced, reaching, if_pos replaced]
  · have different : record.tag ≠ tag := (elsewhere.resolve_right replaced).symm
    rw [reaching, if_neg replaced, reaching, if_neg replaced, List.filter_cons_of_neg (by simpa using different)]

/-- Record by record, a field holds what the records that reached it say. -/
theorem Treated.holds (separate : Separate registrations)
    (split : registrations = earlier ++ (tag, kind) :: later) {records : List Record}
    {treatments : List (Treatment σ)} (treated : Treated registrations records treatments)
    {seen : List Record} {fields : σ} (holds : kind.Holds seen (kind.content fields)) :
    kind.Holds (seen ++ reaching tag later records) (kind.content (afterwards treatments fields)) := by
  induction treated generalizing seen fields with
  | nil =>
    rw [reaching_nil, List.append_nil]
    exact holds
  | @cons record treatment records treatments outcome _ ih =>
    by_cases elsewhere : tag ≠ record.tag ∨ tag ∈ later.map Prod.fst
    · have still : kind.content (treatment.2 fields) = kind.content fields :=
        outcome.leaves (fun other found => separate.leaves_elsewhere split elsewhere found) fields
      rw [reaching_cons_elsewhere elsewhere]
      exact ih (still.symm ▸ holds)
    · obtain ⟨own, last⟩ := not_or.mp elsewhere
      rw [ne_eq, not_not] at own
      have force : inForce registrations record.tag = some kind := by
        rw [inForce_split split, ← own, inForce_eq_none last, if_pos rfl]
        rfl
      have listed : (tag, kind) ∈ registrations := split ▸ List.mem_append_right _ List.mem_cons_self
      have step := outcome.holds (separate.sound _ listed) force holds
      rw [reaching_cons_own own last, List.append_cons]
      exact ih step

/-! ## Emptying the fields first -/

theorem clear_registered (registrations : List (UInt32 × Kind σ)) (fields : σ) :
    (registered registrations).clear fields =
      registrations.foldl (fun fields registration => registration.2.slot.clear fields) fields := by
  rw [Dictionary.clear, registrations_registered, List.foldl_map]

theorem foldl_clear_leaves {view : σ → γ} (registrations : List (UInt32 × Kind σ))
    (leaves : ∀ registration ∈ registrations, registration.2.Leaves view) (fields : σ) :
    view (registrations.foldl (fun fields registration => registration.2.slot.clear fields) fields) =
      view fields := by
  induction registrations generalizing fields with
  | nil => rfl
  | cons registration registrations ih =>
    obtain ⟨first, others⟩ := List.forall_mem_cons.mp leaves
    exact (ih others _).trans (Kind.clear_leaves first fields)

theorem Separate.holds_cleared (separate : Separate registrations)
    (split : registrations = earlier ++ (tag, kind) :: later) (fields : σ) :
    kind.Holds [] (kind.content ((registered registrations).clear fields)) := by
  have listed : (tag, kind) ∈ registrations := split ▸ List.mem_append_right _ List.mem_cons_self
  rw [clear_registered, split, List.foldl_append, List.foldl_cons,
    foldl_clear_leaves later (separate.around split).2]
  exact Kind.holds_clear (separate.sound _ listed) _

end Split

/-! ## The whole buffer -/

/-- The complaints and the fields after unpacking a buffer over the fields of an earlier response. -/
def unpack (registrations : List (UInt32 × Kind σ)) (previous : σ) (bytes : List UInt8) :
    List RecordError × Unpacking σ :=
  Unpacking.all (registered registrations) (.start (registered registrations) previous bytes)

/-- Every buffer is some complete records and a tail, in one way only. Unpacking ends at the end of the
buffer and complains about the records in order, each by itself, and about a tail. Each field holds what
the records of its tag say, nothing is left of an earlier response, and what is not registered stays. -/
theorem unpack_records (registrations : List (UInt32 × Kind σ)) (separate : Separate registrations)
    (bytes : List UInt8) :
    ∃ records tail complaints,
      (∀ others otherTail, Cut bytes others otherTail ↔ others = records ∧ otherTail = tail) ∧
      List.Forall₂ (fun record complaint => ∃ effect, Outcome registrations record complaint effect)
        records complaints ∧
      ∀ previous : σ,
        (unpack registrations previous bytes).1 = complaints.filterMap id ++ trailing tail ∧
        (unpack registrations previous bytes).2.rest = [] ∧
        (∀ earlier tag kind later, registrations = earlier ++ (tag, kind) :: later →
          kind.Holds (reaching tag later records)
              (kind.content (unpack registrations previous bytes).2.fields) ∧
            ∀ other, kind.content (unpack registrations other bytes).2.fields =
              kind.content (unpack registrations previous bytes).2.fields) ∧
        ∀ {γ : Type} (view : σ → γ), (∀ registration ∈ registrations, registration.2.Leaves view) →
          view (unpack registrations previous bytes).2.fields = view previous := by
  obtain ⟨records, tail, cut⟩ := exists_cut bytes
  obtain ⟨treatments, treated, run⟩ := all_eq separate cut
  have unpacked (previous : σ) : unpack registrations previous bytes =
      (treatments.filterMap Prod.fst ++ trailing tail,
        ⟨afterwards treatments ((registered registrations).clear previous), []⟩) := run _
  have holds {earlier later : List (UInt32 × Kind σ)} {tag : UInt32} {kind : Kind σ}
      (split : registrations = earlier ++ (tag, kind) :: later) (previous : σ) : kind.Holds (reaching tag later records)
        (kind.content (unpack registrations previous bytes).2.fields) := by
    rw [unpacked]
    exact treated.holds separate split (separate.holds_cleared split previous)
  refine ⟨records, tail, treatments.map Prod.fst, ?_, ?_, fun previous => ⟨?_, ?_, ?_, ?_⟩⟩
  · intro others otherTail
    constructor
    · exact fun other => other.unique cut
    · rintro ⟨rfl, rfl⟩
      exact cut
  · rw [List.forall₂_map_right_iff]
    exact treated.imp fun _ treatment outcome => ⟨treatment.2, outcome⟩
  · rw [unpacked, List.filterMap_map]
    rfl
  · rw [unpacked]
  · intro earlier tag kind later split
    exact ⟨holds split previous, fun other => (holds split other).unique (holds split previous)⟩
  · intro γ view leaves
    rw [unpacked]
    refine (treated.leaves leaves _).trans ?_
    rw [clear_registered]
    exact foldl_clear_leaves registrations leaves previous

/-- A response of a number and a list of blocks, with one tag that is ignored. -/
def sampleRegistrations : List (UInt32 × Kind (Option UInt32 × List (List UInt8))) := [
  (1, .scalar inferInstance ⟨Prod.fst, fun value fields => (value, fields.2)⟩),
  (2, .sequence inferInstance ⟨Prod.snd, fun values fields => (fields.1, values)⟩),
  (3, .ignored)]

/-- A number, an unknown tag, a good list, a number of a wrong size, a broken list, half a record. -/
def sampleRecords : List Record := [⟨1, [7, 0, 0, 0]⟩, ⟨9, [1]⟩, ⟨2, [1, 0, 0, 0, 0xAA]⟩, ⟨1, [5]⟩, ⟨2, [9]⟩]

theorem unpack_sampleRecords :
    Separate sampleRegistrations ∧
      let after := (unpack sampleRegistrations (some 99, [[1]]) (writeAll sampleRecords ++ [1, 0, 0])).2
      after.rest = [] ∧ after.fields = (some 7, []) := by
  have separate : Separate sampleRegistrations := by
    refine ⟨?_, ?_⟩
    · simp only [sampleRegistrations, List.forall_mem_cons, Kind.Sound, implies_true, true_and,
        List.not_mem_nil, false_implies, and_true]
      exact (Decoder.consuming_take (by decide)).bind fun _ => Decoder.forward_many
        ((Decoder.forward_take 1).bind fun _ => Decoder.forward_pure _) _
    · simp [sampleRegistrations, Kind.Apart, Kind.Leaves, Kind.content]
  have cut : Cut (writeAll sampleRecords ++ [1, 0, 0]) sampleRecords [1, 0, 0] := by
    refine ⟨rfl, ?_, incomplete_of_length_lt (by decide)⟩
    show ∀ record ∈ sampleRecords, record.value.length < UInt32.size
    decide
  obtain ⟨records, tail, complaints, cuts, -, unpacked⟩ :=
    unpack_records sampleRegistrations separate (writeAll sampleRecords ++ [1, 0, 0])
  obtain ⟨rfl, rfl⟩ := (cuts _ _).mp cut
  obtain ⟨-, ends, holds, -⟩ := unpacked (some 99, [[1]])
  have number := (holds [] _ _ _ rfl).1
  have blocks := (holds [_] _ _ _ rfl).1
  refine ⟨separate, ends, Prod.ext ?_ ?_⟩
  · exact number
  · rcases blocks with whole | ⟨empty, _⟩
    · have broken : Broken (Wire.read : Decoder (List UInt8)) [9] .endOfStream := .here (by decide) rfl
      exact absurd whole broken.not_elements
    · exact empty

end DspInspector.Tlv

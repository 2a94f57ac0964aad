import DspInspector.Tlv.Unpack
import DspInspector.Wire.Progress
import Mathlib.Data.List.Induction

/-!
# What registrations mean

A registration ties a tag to a field of one of three kinds. For each kind it is said what filing the
bytes of one value does (`Kind.Filing`, `Kind.store_eq`), and what the field holds after some records
of its tag (`Kind.Holds`). The fields of a response are separate: each shows what was put into it
(`Kind.Sound`), and filing into one does not change another (`Kind.Apart`). From this follows what
filing one record does to a dictionary that was built by registrations (`Outcome`, `file_eq`).
-/

namespace DspInspector.Tlv

open Decoder

/-! ## Elements -/

section Elements

variable {α : Type} {read : Decoder α}

/-- The bytes are these values, one after the other and nothing else. -/
inductive Elements (read : Decoder α) : List UInt8 → List α → Prop where
  | done : Elements read [] []
  | more {bytes rest : List UInt8} {value : α} {values : List α} (some : bytes ≠ [])
    (first : read bytes = .ok value rest) (others : Elements read rest values) :
    Elements read bytes (value :: values)

/-- After some values the reader fails on the bytes that are left. -/
inductive Broken (read : Decoder α) : List UInt8 → WireError → Prop where
  | here {bytes rest : List UInt8} {cause : WireError} (some : bytes ≠ [])
    (failure : read bytes = .error cause rest) : Broken read bytes cause
  | later {bytes rest : List UInt8} {value : α} {cause : WireError} (some : bytes ≠ [])
    (first : read bytes = .ok value rest) (broken : Broken read rest cause) : Broken read bytes cause

theorem Elements.unique {bytes : List UInt8} {values others : List α} (one : Elements read bytes values)
    (two : Elements read bytes others) : values = others := by
  induction one generalizing others with
  | done =>
    cases two with
    | done => rfl
    | more some => exact absurd rfl some
  | more some first _ ih =>
    cases two with
    | done => exact absurd rfl some
    | more _ again rest =>
      cases first.symm.trans again
      rw [ih rest]

theorem Broken.not_elements {bytes : List UInt8} {cause : WireError} {values : List α}
    (broken : Broken read bytes cause) : ¬ Elements read bytes values := by
  intro whole
  induction broken generalizing values with
  | here some failure =>
    cases whole with
    | done => exact some rfl
    | more _ first => cases failure.symm.trans first
  | later some first _ ih =>
    cases whole with
    | done => exact some rfl
    | more _ again rest =>
      cases first.symm.trans again
      exact ih rest

/-- A reader that takes bytes for every value either reads them all or fails on the way. -/
theorem elements_eq (consuming : Consuming read) (bytes : List UInt8) :
    (∃ values, elements read bytes = .ok values ∧ Elements read bytes values) ∨
      ∃ cause, elements read bytes = .error (.element cause) ∧ Broken read bytes cause := by
  fun_induction elements read bytes with
  | case1 => exact .inl ⟨[], rfl, .done⟩
  | case2 byte bytes cause rest failure =>
    exact .inr ⟨cause, rfl, .here (List.cons_ne_nil _ _) failure⟩
  | case3 byte bytes value rest first shorter ih =>
    obtain ⟨values, filed, whole⟩ | ⟨cause, refused, broken⟩ := ih
    · refine .inl ⟨value :: values, ?_, .more (List.cons_ne_nil _ _) first whole⟩
      rw [filed]
      rfl
    · refine .inr ⟨cause, ?_, .later (List.cons_ne_nil _ _) first broken⟩
      rw [refused]
      rfl
  | case4 byte bytes value rest first longer =>
    exact absurd (consuming _ _ _ first) longer

end Elements

/-- A result with the fields after it, that complains or not. -/
def settle {ε σ : Type} (complaint : Option ε) (fields : σ) : EStateM.Result ε σ Unit :=
  match complaint with
  | none => .ok () fields
  | some cause => .error cause fields

/-! ## Kinds of fields -/

/-- What the values of a tag are for: a field for a single value, a field for a list, or nothing. -/
inductive Kind (σ : Type) where
  | scalar {α : Type} (format : Wire α) (field : Field σ (Option α))
  | sequence {α : Type} (format : Wire α) (field : Field σ (List α))
  | ignored

namespace Kind

variable {σ γ : Type}

def slot : Kind σ → Slot σ
  | scalar format field => .scalar format field
  | sequence format field => .sequence format field
  | ignored => .ignored

@[reducible] def Content : Kind σ → Type
  | @scalar _ α _ _ => Option α
  | @sequence _ α _ _ => List α
  | ignored => Unit

/-- What the field shows. -/
def content : (kind : Kind σ) → σ → kind.Content
  | scalar _ field, fields => field.get fields
  | sequence _ field, fields => field.get fields
  | ignored, _ => ()

/-- The field shows what was put into it, and the elements of a list take bytes. -/
def Sound : Kind σ → Prop
  | scalar _ field => ∀ value fields, field.get (field.set value fields) = value
  | sequence format field =>
    Consuming format.read ∧ ∀ values fields, field.get (field.set values fields) = values
  | ignored => True

/-- What is put into the field does not show in `view`. -/
def Leaves (view : σ → γ) : Kind σ → Prop
  | scalar _ field => ∀ value fields, view (field.set value fields) = view fields
  | sequence _ field => ∀ values fields, view (field.set values fields) = view fields
  | ignored => True

/-- Two separate fields. -/
def Apart (one two : Kind σ) : Prop := one.Leaves two.content ∧ two.Leaves one.content

/-- What becomes of the bytes of a value: the complaint about them and the change to the fields. A
single value that cannot be read changes nothing, a list that cannot be read empties its field. -/
inductive Filing : Kind σ → List UInt8 → Option ValueError → (σ → σ) → Prop where
  | scalar {α : Type} {format : Wire α} {field : Field σ (Option α)} {bytes : List UInt8} {value : α}
    (read : format.read bytes = .ok value []) :
    Filing (.scalar format field) bytes none (field.set (some value))
  | leftover {α : Type} {format : Wire α} {field : Field σ (Option α)} {bytes rest : List UInt8} {value : α}
    (read : format.read bytes = .ok value rest) (more : rest ≠ []) :
    Filing (.scalar format field) bytes (some .leftover) id
  | unreadable {α : Type} {format : Wire α} {field : Field σ (Option α)} {bytes rest : List UInt8}
    {cause : WireError} (failure : format.read bytes = .error cause rest) :
    Filing (.scalar format field) bytes (some (.unreadable cause)) id
  | sequence {α : Type} {format : Wire α} {field : Field σ (List α)} {bytes : List UInt8} {values : List α}
    (whole : Elements format.read bytes values) :
    Filing (.sequence format field) bytes none (field.set values)
  | broken {α : Type} {format : Wire α} {field : Field σ (List α)} {bytes : List UInt8} {cause : WireError}
    (broken : Broken format.read bytes cause) :
    Filing (.sequence format field) bytes (some (.element cause)) (field.set [])
  | ignored {bytes : List UInt8} : Filing .ignored bytes none id

/-- Filing does the same whatever the fields hold. -/
theorem store_eq {kind : Kind σ} (sound : kind.Sound) (bytes : List UInt8) :
    ∃ complaint effect, kind.Filing bytes complaint effect ∧
      ∀ fields, kind.slot.store bytes fields = settle complaint (effect fields) := by
  cases kind with
  | scalar format field =>
    cases read : format.read bytes with
    | error cause rest =>
      refine ⟨_, _, .unreadable read, fun fields => ?_⟩
      simp only [slot, Slot.scalar, read, settle, id]
    | ok value rest =>
      cases rest with
      | nil =>
        refine ⟨_, _, .scalar read, fun fields => ?_⟩
        simp only [slot, Slot.scalar, read, settle]
      | cons byte rest =>
        refine ⟨_, _, .leftover read (List.cons_ne_nil _ _), fun fields => ?_⟩
        simp only [slot, Slot.scalar, read, settle, id]
  | sequence format field =>
    obtain ⟨values, filed, whole⟩ | ⟨cause, refused, broken⟩ := elements_eq sound.1 bytes
    · refine ⟨_, _, .sequence whole, fun fields => ?_⟩
      simp only [slot, Slot.sequence, filed, settle]
    · refine ⟨_, _, .broken broken, fun fields => ?_⟩
      simp only [slot, Slot.sequence, refused, settle]
  | ignored => exact ⟨_, _, .ignored, fun fields => rfl⟩

theorem clear_leaves {kind : Kind σ} {view : σ → γ} (leaves : kind.Leaves view) (fields : σ) :
    view (kind.slot.clear fields) = view fields := by
  cases kind with
  | scalar format field => exact leaves none fields
  | sequence format field => exact leaves [] fields
  | ignored => rfl

theorem Filing.leaves {kind : Kind σ} {bytes : List UInt8} {complaint : Option ValueError} {effect : σ → σ}
    (filing : kind.Filing bytes complaint effect) {view : σ → γ} (leaves : kind.Leaves view) (fields : σ) :
    view (effect fields) = view fields := by
  cases filing with
  | scalar => exact leaves _ fields
  | leftover => rfl
  | unreadable => rfl
  | sequence => exact leaves _ fields
  | broken => exact leaves _ fields
  | ignored => rfl

/-! ### What a field holds -/

/-- The records of a size that the field takes at all. -/
def sized (kind : Kind σ) (records : List Record) : List Record :=
  records.filter fun record => kind.slot.accepts record.value.length

/-- The value that spans the bytes. -/
def exactly {α : Type} (format : Wire α) (bytes : List UInt8) : Option α :=
  match format.read bytes with
  | .ok value [] => some value
  | _ => none

/-- The elements of the bytes, or no elements when they cannot be read. -/
def ElementsOrNone {α : Type} (read : Decoder α) (bytes : List UInt8) (held : List α) : Prop :=
  Elements read bytes held ∨ held = [] ∧ ∀ values, ¬ Elements read bytes values

/-- The contents that `records` leave behind: a single value is the last one that was accepted, and a
list has the elements of the last record whose size was. -/
def Holds : (kind : Kind σ) → List Record → kind.Content → Prop
  | scalar format field, records, held =>
    held = (((scalar format field).sized records).filterMap fun record => exactly format record.value).getLast?
  | sequence format field, records, held =>
    match ((sequence format field).sized records).getLast? with
    | none => held = []
    | some record => ElementsOrNone format.read record.value held
  | ignored, _, _ => True

theorem ElementsOrNone.unique {α : Type} {read : Decoder α} {bytes : List UInt8} {one two : List α}
    (first : ElementsOrNone read bytes one) (second : ElementsOrNone read bytes two) : one = two := by
  rcases first with whole | ⟨rfl, broken⟩
  · rcases second with again | ⟨_, broken⟩
    · exact whole.unique again
    · exact absurd whole (broken _)
  · rcases second with again | ⟨rfl, _⟩
    · exact absurd again (broken _)
    · rfl

theorem Holds.unique {kind : Kind σ} {records : List Record} {one two : kind.Content}
    (first : kind.Holds records one) (second : kind.Holds records two) : one = two := by
  cases kind with
  | scalar format field => exact Eq.trans first (Eq.symm second)
  | sequence format field =>
    simp only [Holds] at first second
    cases last : ((sequence format field).sized records).getLast? with
    | none =>
      simp only [last] at first second
      exact first.trans second.symm
    | some record =>
      simp only [last] at first second
      exact first.unique second
  | ignored => rfl

theorem holds_clear {kind : Kind σ} (sound : kind.Sound) (fields : σ) :
    kind.Holds [] (kind.content (kind.slot.clear fields)) := by
  cases kind with
  | scalar format field => exact sound none fields
  | sequence format field => exact sound.2 [] fields
  | ignored => trivial

theorem sized_concat_of_refused {kind : Kind σ} {records : List Record} {record : Record}
    (refused : kind.slot.accepts record.value.length = false) :
    kind.sized (records ++ [record]) = kind.sized records := by
  rw [sized, List.filter_append, List.filter_cons_of_neg (by simp [refused]), List.filter_nil,
    List.append_nil, sized]

theorem sized_concat_of_accepts {kind : Kind σ} {records : List Record} {record : Record}
    (accepts : kind.slot.accepts record.value.length = true) :
    kind.sized (records ++ [record]) = kind.sized records ++ [record] := by
  rw [sized, List.filter_append, List.filter_cons_of_pos (by simp [accepts]), List.filter_nil, sized]

/-- A record whose size the field refuses counts for nothing. -/
theorem Holds.refused {kind : Kind σ} {records : List Record} {held : kind.Content}
    (holds : kind.Holds records held) {record : Record}
    (refused : kind.slot.accepts record.value.length = false) : kind.Holds (records ++ [record]) held := by
  cases kind with
  | scalar format field =>
    simp only [Holds, sized_concat_of_refused refused]
    exact holds
  | sequence format field =>
    simp only [Holds, sized_concat_of_refused refused]
    exact holds
  | ignored => trivial

/-- Filing a record of an accepted size makes the field hold what the records up to it say. -/
theorem Holds.filed {kind : Kind σ} (sound : kind.Sound) {records : List Record} {record : Record}
    {complaint : Option ValueError} {effect : σ → σ} {fields : σ}
    (holds : kind.Holds records (kind.content fields))
    (accepts : kind.slot.accepts record.value.length = true)
    (filing : kind.Filing record.value complaint effect) :
    kind.Holds (records ++ [record]) (kind.content (effect fields)) := by
  have snoc : kind.sized (records ++ [record]) = kind.sized records ++ [record] :=
    sized_concat_of_accepts accepts
  cases filing with
  | scalar read =>
    rename_i α format field value
    have last : [record].filterMap (fun record => exactly format record.value) = [value] := by
      simp [exactly, read]
    simp only [Holds, snoc, List.filterMap_append, last, List.getLast?_concat]
    exact sound _ fields
  | leftover read more =>
    rename_i α format field rest value
    have nothing : [record].filterMap (fun record => exactly format record.value) = [] := by
      cases rest with
      | nil => exact absurd rfl more
      | cons byte rest => simp [exactly, read]
    simp only [Holds, snoc, List.filterMap_append, nothing, List.append_nil]
    exact holds
  | unreadable failure =>
    rename_i α format field rest cause
    have nothing : [record].filterMap (fun record => exactly format record.value) = [] := by
      simp [exactly, failure]
    simp only [Holds, snoc, List.filterMap_append, nothing, List.append_nil]
    exact holds
  | sequence whole =>
    rename_i α format field values
    simp only [Holds, snoc, List.getLast?_concat]
    left
    show Elements format.read record.value (field.get (field.set values fields))
    rw [sound.2]
    exact whole
  | broken broken =>
    rename_i α format field cause
    simp only [Holds, snoc, List.getLast?_concat]
    right
    exact ⟨sound.2 [] fields, fun values => broken.not_elements⟩
  | ignored => trivial

end Kind

/-! ## Dictionaries -/

section Dictionaries

variable {σ γ : Type} {registrations : List (UInt32 × Kind σ)}

/-- The dictionary that registering tags one after the other gives. -/
def registered (registrations : List (UInt32 × Kind σ)) : Dictionary σ :=
  registrations.foldl (fun dictionary registration => dictionary.insert registration.1 registration.2.slot)
    .empty

/-- The kind of the last registration of a tag. -/
def inForce (registrations : List (UInt32 × Kind σ)) (tag : UInt32) : Option (Kind σ) :=
  ((registrations.filter (·.1 == tag)).getLast?).map (·.2)

/-- Every field behaves, and no two registrations share one. -/
structure Separate (registrations : List (UInt32 × Kind σ)) : Prop where
  sound : ∀ registration ∈ registrations, registration.2.Sound
  apart : registrations.Pairwise fun one two => one.2.Apart two.2

theorem registrations_registered (registrations : List (UInt32 × Kind σ)) :
    (registered registrations).registrations =
      registrations.map fun registration => (registration.1, registration.2.slot) := by
  induction registrations using List.reverseRecOn with
  | nil => rfl
  | append_singleton registrations registration ih =>
    rw [registered, List.foldl_append, ← registered, List.foldl_cons, List.foldl_nil, Dictionary.insert, ih,
      List.map_append, List.map_singleton]

theorem inForce_append (earlier later : List (UInt32 × Kind σ)) (tag : UInt32) :
    inForce (earlier ++ later) tag = (inForce later tag).or (inForce earlier tag) := by
  rw [inForce, List.filter_append, List.getLast?_append, Option.map_or]
  rfl

theorem inForce_singleton (registration : UInt32 × Kind σ) (tag : UInt32) :
    inForce [registration] tag = if registration.1 = tag then some registration.2 else none := by
  by_cases same : registration.1 = tag
  · simp [inForce, same]
  · simp [inForce, same]

theorem find?_registered (registrations : List (UInt32 × Kind σ)) (tag : UInt32) :
    (registered registrations).find? tag = (inForce registrations tag).map Kind.slot := by
  rw [Dictionary.find?, registrations_registered]
  induction registrations using List.reverseRecOn with
  | nil => rfl
  | append_singleton registrations registration ih =>
    rw [inForce_append, inForce_singleton, List.map_append, List.reverse_append, List.map_singleton,
      List.reverse_singleton, List.singleton_append, List.find?_cons]
    by_cases same : registration.1 = tag
    · simp [same]
    · simp only [same, if_false, Option.none_or, beq_eq_false_iff_ne.mpr same]
      exact ih

theorem mem_of_inForce {tag : UInt32} {kind : Kind σ} (found : inForce registrations tag = some kind) :
    (tag, kind) ∈ registrations := by
  obtain ⟨registration, last, rfl⟩ := Option.map_eq_some_iff.mp found
  have member := List.mem_of_getLast? last
  obtain ⟨registered, same⟩ := List.mem_filter.mp member
  rw [← beq_iff_eq.mp same]
  exact registered

/-- What becomes of one record: the complaint about it and the change to the fields. -/
inductive Outcome (registrations : List (UInt32 × Kind σ)) (record : Record) :
    Option RecordError → (σ → σ) → Prop where
  | unknownTag (absent : inForce registrations record.tag = none) :
    Outcome registrations record (some (.unknownTag record.tag)) id
  | badSize {kind : Kind σ} (found : inForce registrations record.tag = some kind)
    (refused : kind.slot.accepts record.value.length = false) :
    Outcome registrations record (some (.badSize record.tag record.value.length)) id
  | filed {kind : Kind σ} {complaint : Option ValueError} {effect : σ → σ}
    (found : inForce registrations record.tag = some kind)
    (accepts : kind.slot.accepts record.value.length = true)
    (filing : kind.Filing record.value complaint effect) :
    Outcome registrations record (complaint.map (.badValue record.tag)) effect

/-- A record has the same outcome whatever the fields hold. -/
theorem file_eq (separate : Separate registrations) (record : Record) :
    ∃ complaint effect, Outcome registrations record complaint effect ∧
      ∀ fields, (registered registrations).file record fields = settle complaint (effect fields) := by
  cases found : inForce registrations record.tag with
  | none =>
    refine ⟨_, _, .unknownTag found, fun fields => ?_⟩
    simp only [Dictionary.file, find?_registered, found, Option.map_none, settle, id]
  | some kind =>
    by_cases accepts : kind.slot.accepts record.value.length = true
    · have sound := separate.sound _ (mem_of_inForce found)
      obtain ⟨complaint, effect, filing, stores⟩ := kind.store_eq sound record.value
      refine ⟨_, _, .filed found accepts filing, fun fields => ?_⟩
      simp only [Dictionary.file, find?_registered, found, Option.map_some, accepts, if_true, stores]
      cases complaint <;> rfl
    · rw [Bool.not_eq_true] at accepts
      refine ⟨_, _, .badSize found accepts, fun fields => ?_⟩
      simp [Dictionary.file, find?_registered, found, accepts, settle]

/-- A record does not show where the kind of its tag does not. -/
theorem Outcome.leaves {record : Record} {complaint : Option RecordError} {effect : σ → σ}
    (outcome : Outcome registrations record complaint effect) {view : σ → γ}
    (leaves : ∀ kind, inForce registrations record.tag = some kind → kind.Leaves view) (fields : σ) :
    view (effect fields) = view fields := by
  cases outcome with
  | unknownTag => rfl
  | badSize => rfl
  | filed found _ filing => exact filing.leaves (leaves _ found) fields

/-- A record of its own tag takes a field to what the records up to it say. -/
theorem Outcome.holds {record : Record} {complaint : Option RecordError} {effect : σ → σ}
    (outcome : Outcome registrations record complaint effect) {kind : Kind σ} (sound : kind.Sound)
    (own : inForce registrations record.tag = some kind) {records : List Record} {fields : σ}
    (holds : kind.Holds records (kind.content fields)) :
    kind.Holds (records ++ [record]) (kind.content (effect fields)) := by
  cases outcome with
  | unknownTag absent => cases own.symm.trans absent
  | badSize found refused =>
    cases own.symm.trans found
    exact holds.refused refused
  | filed found accepts filing =>
    cases own.symm.trans found
    exact holds.filed sound accepts filing

end Dictionaries

end DspInspector.Tlv

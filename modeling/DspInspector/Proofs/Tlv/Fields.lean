import DspInspector.Proofs.Tlv.Unpacking
import DspInspector.Proofs.Wire.Sizes
import Mathlib.Data.List.Nodup

/-!
# Responses with a field for each tag

Where every member of an enumeration has a field of its own, what a response says about a field is what its records
of that tag say (`Fields.holds`). So a value survives the list of its records: they may come in any order and with
records of unknown tags between them (`Fields.unpack_mixed`).
-/

namespace DspInspector.Tlv

open Wire

variable {κ σ : Type} [Enumeration κ]

/-- A record type with a field for each member of an enumeration. -/
structure Fields (κ σ : Type) [Enumeration κ] where
  kind : κ → Kind σ
  listed : ∀ tag : κ, tag ∈ (Enumeration.all : List κ)
  distinct : ((Enumeration.all : List κ).map fun tag => (Enumeration.coding tag).code).Nodup
  sound : ∀ tag, (kind tag).Sound
  apart : ∀ one two, one ≠ two → (kind one).Leaves (kind two).content
  whole : ∀ one two : σ, (∀ tag, (kind tag).content one = (kind tag).content two) → one = two

/-- The codes of an enumeration. -/
def codes (κ : Type) [Enumeration κ] : List UInt32 :=
  (Enumeration.all : List κ).map fun tag => (Enumeration.coding tag).code

namespace Fields

variable (fields : Fields κ σ)

def registrations : List (UInt32 × Kind σ) :=
  (Enumeration.all : List κ).map fun tag => ((Enumeration.coding tag).code, fields.kind tag)

theorem map_fst_registrations : fields.registrations.map Prod.fst = codes κ := by
  simp [registrations, codes]

theorem separate : Separate fields.registrations := by
  refine ⟨?_, ?_⟩
  · simp only [registrations, List.forall_mem_map]
    exact fun tag _ => fields.sound tag
  · have tags : (Enumeration.all : List κ).Nodup := List.Nodup.of_map _ fields.distinct
    rw [registrations, List.pairwise_map]
    exact tags.imp fun {one two} different => ⟨fields.apart one two different, fields.apart two one different.symm⟩

theorem registered_eq : registered fields.registrations =
    ⟨(Enumeration.all : List κ).map fun tag => ((Enumeration.coding tag).code, (fields.kind tag).slot)⟩ := by
  have same : (registered fields.registrations).registrations = _ := registrations_registered fields.registrations
  rw [registrations, List.map_map] at same
  exact congrArg Dictionary.mk same

theorem exists_split (tag : κ) : ∃ earlier later,
    fields.registrations = earlier ++ ((Enumeration.coding tag).code, fields.kind tag) :: later ∧
      (Enumeration.coding tag).code ∉ later.map Prod.fst := by
  have member : ((Enumeration.coding tag).code, fields.kind tag) ∈ fields.registrations :=
    List.mem_map_of_mem (f := fun tag => ((Enumeration.coding tag).code, fields.kind tag)) (fields.listed tag)
  obtain ⟨earlier, later, split⟩ := List.append_of_mem member
  refine ⟨earlier, later, split, ?_⟩
  have distinct : (fields.registrations.map Prod.fst).Nodup := fields.map_fst_registrations ▸ fields.distinct
  rw [split, List.map_append, List.map_cons] at distinct
  exact (List.nodup_cons.mp distinct.of_append_right).1

/-- Unpacking treats each record by itself, and a field holds what the records of its tag say. -/
theorem unpack_cut {bytes tail : List UInt8} {records : List Record} (cut : Cut bytes records tail) (previous : σ) :
    ∃ treatments, Treated fields.registrations records treatments ∧
      unpack fields.registrations previous bytes = (treatments.filterMap Prod.fst ++ trailing tail,
        ⟨(unpack fields.registrations previous bytes).2.fields, []⟩) ∧
      ∀ tag, (fields.kind tag).Holds (records.filter (·.tag == (Enumeration.coding tag).code))
        ((fields.kind tag).content (unpack fields.registrations previous bytes).2.fields) := by
  obtain ⟨treatments, treated, run⟩ := all_eq fields.separate cut
  have unpacked : unpack fields.registrations previous bytes = (treatments.filterMap Prod.fst ++ trailing tail,
      ⟨afterwards treatments ((registered fields.registrations).clear previous), []⟩) := run _
  refine ⟨treatments, treated, by rw [unpacked], fun tag => ?_⟩
  obtain ⟨earlier, later, split, last⟩ := fields.exists_split tag
  have holds := treated.holds fields.separate split (fields.separate.holds_cleared split previous)
  rw [reaching, if_neg last, List.nil_append] at holds
  rw [unpacked]
  exact holds

end Fields

/-! ## Values in their records -/

namespace Kind

/-- The bytes in which a content travels, when there is something to say. -/
def bytes? : (kind : Kind σ) → kind.Content → Option (List UInt8)
  | scalar format _, held => held.map format.write
  | sequence format _, held => if held.isEmpty then none else some (held.flatMap format.write)
  | ignored, _ => none

/-- Filing these bytes gives the content. -/
def Carries : (kind : Kind σ) → List UInt8 → kind.Content → Prop
  | scalar format _, bytes, held => ∃ value, held = some value ∧ format.read bytes = .ok value []
  | sequence format _, bytes, held => Elements format.read bytes held
  | ignored, _, _ => True

/-- Where the bytes of a content are short enough for a record, filing them gives the content back. -/
def Travels (kind : Kind σ) (held : kind.Content) : Prop :=
  ∀ bytes, kind.bytes? held = some bytes → Fits bytes →
    kind.slot.accepts bytes.length = true ∧ kind.Carries bytes held

theorem travels_scalar {α : Type} [format : Wire α] [measured : Measured α] {field : Field σ (Option α)}
    {held : Option α} (echoed : ∀ value : α, Fits (Wire.write value) → Echoed value) :
    (Kind.scalar format field).Travels held := by
  intro bytes sent fits
  obtain ⟨value, rfl, rfl⟩ := Option.map_eq_some_iff.mp sent
  have read := echoed value fits []
  rw [List.append_nil] at read
  refine ⟨?_, value, rfl, read⟩
  cases declared : format.size with
  | none => simp [slot, Slot.scalar, declared]
  | some n => simp [slot, Slot.scalar, declared, measured.length_write declared value]

theorem elements_flatMap {α : Type} [Wire α] [Faithful α] [measured : Measured α] {n : Nat}
    (declared : Wire.size α = some (n + 1)) (values : List α) :
    Elements (Wire.read : Decoder α) (values.flatMap Wire.write) values := by
  induction values with
  | nil => exact .done
  | cons value values ih =>
    rw [List.flatMap_cons]
    refine .more ?_ (Faithful.echoed value _) ih
    rw [← List.length_pos_iff, List.length_append, measured.length_write declared]
    omega

theorem travels_sequence {α : Type} [format : Wire α] [Faithful α] [Measured α] {field : Field σ (List α)}
    {held : List α} {n : Nat} (declared : Wire.size α = some (n + 1)) :
    (Kind.sequence format field).Travels held := by
  intro bytes sent fits
  cases held with
  | nil => cases sent
  | cons value values =>
    obtain rfl : (value :: values).flatMap Wire.write = bytes := Option.some.inj sent
    have length : ((value :: values).flatMap Wire.write).length = (values.length + 1) * (n + 1) :=
      length_flatMap_write declared _
    refine ⟨?_, elements_flatMap declared _⟩
    simp only [slot, Slot.sequence, declared, length]
    simp

theorem Carries.complaint {kind : Kind σ} {bytes : List UInt8} {held : kind.Content} (carries : kind.Carries bytes held)
    {complaint : Option ValueError} {effect : σ → σ} (filing : kind.Filing bytes complaint effect) :
    complaint = none := by
  cases filing with
  | scalar | sequence | ignored => rfl
  | leftover read more =>
    obtain ⟨value, -, whole⟩ := carries
    cases whole.symm.trans read
    exact absurd rfl more
  | unreadable failure =>
    obtain ⟨value, -, whole⟩ := carries
    cases whole.symm.trans failure
  | broken broken => exact absurd carries broken.not_elements

theorem Carries.holds {kind : Kind σ} {record : Record} {held : kind.Content} (carries : kind.Carries record.value held)
    (accepts : kind.slot.accepts record.value.length = true) : kind.Holds [record] held := by
  cases kind with
  | scalar format field =>
    obtain ⟨value, rfl, whole⟩ := carries
    simp [Holds, sized, accepts, exactly, whole]
  | sequence format field =>
    simp only [Holds, sized, accepts, List.filter_cons, List.filter_nil, if_true, List.getLast?_singleton]
    exact .inl carries
  | ignored => trivial

theorem holds_nil {kind : Kind σ} {held : kind.Content} (silent : kind.bytes? held = none) : kind.Holds [] held := by
  cases kind with
  | scalar format field => simpa [bytes?, Holds, sized] using silent
  | sequence format field => simpa [bytes?, Holds, sized] using silent
  | ignored => trivial

end Kind

/-- Records of a value in any order, and anywhere between them records of tags that are not listed. The length field of
each can say its length. -/
structure Mixed (tags : List UInt32) (own records : List Record) : Prop where
  own : (records.filter (·.tag ∈ tags)).Perm own
  framed : ∀ record ∈ records, Fits record.value

/-- The complaints about the records whose tags are not listed. -/
def strange (tags : List UInt32) (records : List Record) : List RecordError :=
  (records.filter (·.tag ∉ tags)).map (.unknownTag ·.tag)

theorem filterMap_treated {registrations : List (UInt32 × Kind σ)} {records : List Record}
    {treatments : List (Treatment σ)} (treated : Treated registrations records treatments) {tags : List UInt32}
    (expected : ∀ record ∈ records, ∀ complaint effect, Outcome registrations record complaint effect →
      complaint = if record.tag ∈ tags then none else some (.unknownTag record.tag)) :
    treatments.filterMap Prod.fst = strange tags records := by
  induction treated with
  | nil => rfl
  | @cons record treatment records treatments outcome treated ih =>
    obtain ⟨first, others⟩ := List.forall_mem_cons.mp expected
    have complaint := first _ _ outcome
    have rest := ih others
    by_cases listed : record.tag ∈ tags
    · rw [if_pos listed] at complaint
      simpa [strange, listed, complaint] using rest
    · rw [if_neg listed] at complaint
      simpa [strange, listed, complaint] using rest

namespace Fields

variable (fields : Fields κ σ)

/-- The records of a value, one for each field that has something to say. -/
def own (value : σ) : List Record :=
  (Enumeration.all : List κ).filterMap fun tag =>
    ((fields.kind tag).bytes? ((fields.kind tag).content value)).map (.mk (Enumeration.coding tag).code)

theorem inForce_code (tag : κ) :
    inForce fields.registrations (Enumeration.coding tag).code = some (fields.kind tag) := by
  obtain ⟨earlier, later, split, last⟩ := fields.exists_split tag
  rw [inForce_split split, inForce_eq_none last, if_pos rfl]
  rfl

private theorem filter_tagged_of_notMem (bytes : κ → Option (List UInt8)) {code : UInt32} {members : List κ}
    (absent : code ∉ members.map fun tag => (Enumeration.coding tag).code) :
    (members.filterMap fun tag => (bytes tag).map (Record.mk (Enumeration.coding tag).code)).filter (·.tag == code) =
      [] := by
  simp only [List.filter_eq_nil_iff, List.mem_filterMap, Option.map_eq_some_iff]
  rintro _ ⟨tag, member, value, -, rfl⟩ same
  exact absent (beq_iff_eq.mp same ▸ List.mem_map_of_mem member)

private theorem filter_tagged (bytes : κ → Option (List UInt8)) {tag : κ} {members : List κ}
    (distinct : (members.map fun tag => (Enumeration.coding tag).code).Nodup) (member : tag ∈ members) :
    (members.filterMap fun tag => (bytes tag).map (Record.mk (Enumeration.coding tag).code)).filter
      (·.tag == (Enumeration.coding tag).code) = ((bytes tag).map (.mk (Enumeration.coding tag).code)).toList := by
  induction members with
  | nil => simp at member
  | cons first members ih =>
    obtain ⟨unlike, rest⟩ := List.nodup_cons.mp distinct
    rcases List.mem_cons.mp member with rfl | later
    · have others := filter_tagged_of_notMem bytes unlike
      cases sent : bytes tag <;> simp [sent, others]
    · have other : (Enumeration.coding first).code ≠ (Enumeration.coding tag).code := by
        intro same
        exact unlike (List.mem_map.mpr ⟨tag, later, same.symm⟩)
      have found := ih rest later
      cases sent : bytes first <;> simp [sent, other, found]

/-- Only the own record of a field has its tag. -/
theorem filter_mixed {value : σ} {records : List Record} (mixed : Mixed (codes κ) (fields.own value) records)
    (tag : κ) : records.filter (·.tag == (Enumeration.coding tag).code) =
      (((fields.kind tag).bytes? ((fields.kind tag).content value)).map
        (.mk (Enumeration.coding tag).code)).toList := by
  have known : (Enumeration.coding tag).code ∈ codes κ := List.mem_map_of_mem (fields.listed tag)
  have within : (records.filter (·.tag ∈ codes κ)).filter (·.tag == (Enumeration.coding tag).code) =
      records.filter (·.tag == (Enumeration.coding tag).code) := by
    rw [List.filter_filter]
    refine List.filter_congr fun record _ => ?_
    by_cases same : record.tag = (Enumeration.coding tag).code <;> simp [same, known]
  have tagged := filter_tagged (fun tag => (fields.kind tag).bytes? ((fields.kind tag).content value)) fields.distinct
    (fields.listed tag)
  have perm := mixed.own.filter (·.tag == (Enumeration.coding tag).code)
  rw [within, own, tagged] at perm
  cases bytes : (fields.kind tag).bytes? ((fields.kind tag).content value) with
  | none =>
    rw [bytes] at perm
    exact perm.eq_nil
  | some value =>
    rw [bytes] at perm
    exact List.perm_singleton.mp perm

/-- A value survives a list of its records, whatever is mixed into it and whatever was there before. -/
theorem unpack_mixed {value : σ} {records : List Record} (mixed : Mixed (codes κ) (fields.own value) records)
    (travels : ∀ tag, (fields.kind tag).Travels ((fields.kind tag).content value)) (previous : σ) :
    unpack fields.registrations previous (writeAll records) = (strange (codes κ) records, ⟨value, []⟩) := by
  have cut : Cut (writeAll records) records [] :=
    ⟨(List.append_nil _).symm, mixed.framed, incomplete_of_length_lt (by decide)⟩
  obtain ⟨treatments, treated, unpacked, holds⟩ := fields.unpack_cut cut previous
  -- Each field hears its own record and no other, so that the order of the records does not matter.
  have received : (unpack fields.registrations previous (writeAll records)).2.fields = value := by
    refine fields.whole _ _ fun tag => ?_
    have held := holds tag
    have tagged := fields.filter_mixed mixed tag
    rw [tagged] at held
    cases sent : (fields.kind tag).bytes? ((fields.kind tag).content value) with
    | none =>
      rw [sent] at held
      exact held.unique (Kind.holds_nil sent)
    | some bytes =>
      rw [sent] at held tagged
      have member : Record.mk (Enumeration.coding tag).code bytes ∈ records := by
        refine List.mem_of_mem_filter (p := (·.tag == (Enumeration.coding tag).code)) ?_
        simp [tagged]
      obtain ⟨accepts, carries⟩ := travels tag bytes sent (mixed.framed _ member)
      exact held.unique (carries.holds accepts)
  have complaints : treatments.filterMap Prod.fst = strange (codes κ) records := by
    refine filterMap_treated treated fun record member complaint effect outcome => ?_
    by_cases known : record.tag ∈ codes κ
    · obtain ⟨tag, -, same⟩ := List.mem_map.mp known
      have tagged := fields.filter_mixed mixed tag
      have found : record ∈ records.filter (·.tag == (Enumeration.coding tag).code) :=
        List.mem_filter.mpr ⟨member, by simp [same]⟩
      rw [tagged, Option.mem_toList, Option.map_eq_some_iff] at found
      obtain ⟨bytes, sent, rfl⟩ := found
      obtain ⟨accepts, carries⟩ := travels tag bytes sent (mixed.framed _ member)
      rw [if_pos known]
      cases outcome with
      | unknownTag absent => cases absent.symm.trans (fields.inForce_code tag)
      | badSize found refused =>
        cases found.symm.trans (fields.inForce_code tag)
        cases refused.symm.trans accepts
      | filed found _ filing =>
        cases found.symm.trans (fields.inForce_code tag)
        rw [carries.complaint filing]
        rfl
    · have absent : inForce fields.registrations record.tag = none :=
        inForce_eq_none (fields.map_fst_registrations ▸ known)
      rw [if_neg known]
      cases outcome with
      | unknownTag => rfl
      | badSize found | filed found => cases absent.symm.trans found
  rw [unpacked, complaints, received]
  exact congrArg (·, _) (List.append_nil _)

end Fields

end DspInspector.Tlv

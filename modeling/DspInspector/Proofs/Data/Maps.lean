import DspInspector.Data.OrderedMap
import Mathlib.Data.List.Induction

/-!
# Ordered maps by their entries

A key is found exactly where it has an entry (`find?_eq_some_iff`), what is put in is found again and
nothing else changes (`find?_insert`), and entries that come in order stay as they are
(`entries_ofList`). A map of entries in any order has their keys (`mem_keys_ofList`) and
nothing but their values (`mem_of_find?_ofList`). Keys come in one order only (`keys_eq_of_mem_iff`), so that
what is found under them makes the map (`ext_find?`).
-/

namespace DspInspector.OrderedMap

variable {κ ν : Type} [Ranked κ]

theorem rank_eq_iff {a b : κ} : Ranked.rank a = Ranked.rank b ↔ a = b :=
  ⟨Ranked.rank_injective a b, fun same => same ▸ rfl⟩

theorem mem_insertInto {key : κ} {value : ν} {entries : List (κ × ν)}
    (ascending : entries.Pairwise fun a b => Ranked.rank a.1 < Ranked.rank b.1) {entry : κ × ν} :
    entry ∈ insertInto key value entries ↔ entry = (key, value) ∨ (entry.1 ≠ key ∧ entry ∈ entries) := by
  induction entries with
  | nil => simp [insertInto]
  | cons first rest ih =>
    obtain ⟨before, tail⟩ := List.pairwise_cons.mp ascending
    -- Keys after the first are above it, so a key at or below it is none of theirs.
    have beyond : Ranked.rank key ≤ Ranked.rank first.1 → ∀ other ∈ rest, other.1 ≠ key := by
      intro low other member same
      have above := before other member
      rw [same] at above
      omega
    simp only [insertInto]
    split
    · rename_i less
      have above : first.1 ≠ key := fun same => by rw [same] at less; omega
      have apart := beyond (Nat.le_of_lt less)
      rw [List.mem_cons, List.mem_cons]
      refine or_congr_right ⟨fun member => ⟨?_, member⟩, And.right⟩
      rcases member with rfl | member
      · exact above
      · exact apart entry member
    · split
      · rename_i same
        have apart := beyond (Nat.le_of_eq same)
        rw [List.mem_cons, List.mem_cons]
        refine or_congr_right ⟨fun member => ⟨apart entry member, .inr member⟩, ?_⟩
        rintro ⟨other, rfl | member⟩
        · exact absurd (rank_eq_iff.mp same).symm other
        · exact member
      · rename_i _ other
        have above : first.1 ≠ key := fun same => other (same ▸ rfl)
        rw [List.mem_cons, ih tail, List.mem_cons]
        constructor
        · rintro (rfl | rfl | ⟨apart, member⟩)
          · exact .inr ⟨above, .inl rfl⟩
          · exact .inl rfl
          · exact .inr ⟨apart, .inr member⟩
        · rintro (rfl | ⟨apart, rfl | member⟩)
          · exact .inr (.inl rfl)
          · exact .inl rfl
          · exact .inr (.inr ⟨apart, member⟩)

/-- A key is found where it has an entry. -/
theorem find?_eq_some_iff {map : OrderedMap κ ν} {key : κ} {value : ν} :
    map.find? key = some value ↔ (key, value) ∈ map.entries := by
  obtain ⟨entries, ascending⟩ := map
  unfold find?
  induction entries with
  | nil => simp
  | cons first rest ih =>
    obtain ⟨before, tail⟩ := List.pairwise_cons.mp ascending
    rw [List.find?_cons, List.mem_cons]
    by_cases same : first.1 = key
    · have found : (Ranked.rank first.1 == Ranked.rank key) = true := by simp [same]
      simp only [found, Option.map_some, Option.some.injEq]
      constructor
      · rintro rfl
        exact .inl (by rw [← same])
      · rintro (isFirst | later)
        · rw [← isFirst]
        · have above : Ranked.rank first.1 < Ranked.rank key := before _ later
          rw [same] at above
          exact absurd above (Nat.lt_irrefl _)
    · have missed : (Ranked.rank first.1 == Ranked.rank key) = false := by
        simpa [rank_eq_iff] using same
      simp only [missed]
      rw [ih tail]
      refine ⟨.inr, fun member => ?_⟩
      rcases member with isFirst | later
      · exact absurd (congrArg Prod.fst isFirst).symm same
      · exact later

theorem find?_insert {map : OrderedMap κ ν} {key other : κ} {value found : ν} :
    (map.insert key value).find? other = some found ↔
      (other = key ∧ found = value) ∨ (other ≠ key ∧ map.find? other = some found) := by
  rw [find?_eq_some_iff, find?_eq_some_iff]
  exact (mem_insertInto map.ascending).trans (by rw [Prod.mk.injEq])

theorem insertInto_above {key : κ} {value : ν} {entries : List (κ × ν)}
    (above : ∀ entry ∈ entries, Ranked.rank entry.1 < Ranked.rank key) :
    insertInto key value entries = entries ++ [(key, value)] := by
  induction entries with
  | nil => rfl
  | cons first rest ih =>
    have low := above first (by simp)
    rw [insertInto, if_neg (by omega), if_neg (by omega), ih fun entry member => above entry (by simp [member]),
      List.cons_append]

private theorem entries_foldl_insert (list : List (κ × ν)) : ∀ map : OrderedMap κ ν,
    (map.entries ++ list).Pairwise (fun a b => Ranked.rank a.1 < Ranked.rank b.1) →
      (list.foldl (fun map entry => map.insert entry.1 entry.2) map).entries = map.entries ++ list := by
  induction list with
  | nil =>
    intro map _
    simp
  | cons entry list ih =>
    intro map ascending
    have step : (map.insert entry.1 entry.2).entries = map.entries ++ [entry] := by
      refine insertInto_above fun other member => ?_
      exact (List.pairwise_append.mp ascending).2.2 other member entry (by simp)
    rw [List.foldl_cons, ih _ (by simpa [step] using ascending), step]
    simp

/-- Entries that come in ascending order are the entries of their map. -/
theorem entries_ofList {list : List (κ × ν)}
    (ascending : list.Pairwise fun a b => Ranked.rank a.1 < Ranked.rank b.1) :
    (ofList list).entries = list := by
  refine (entries_foldl_insert list empty ?_).trans (List.nil_append list)
  simpa [empty] using ascending

theorem mem_keys_iff {map : OrderedMap κ ν} {key : κ} : key ∈ map.keys ↔ ∃ value, map.find? key = some value := by
  simp only [keys, List.mem_map, find?_eq_some_iff]
  constructor
  · rintro ⟨⟨_, value⟩, member, rfl⟩
    exact ⟨value, member⟩
  · rintro ⟨value, member⟩
    exact ⟨(key, value), member, rfl⟩

theorem mem_values_of_find? {map : OrderedMap κ ν} {key : κ} {value : ν} (found : map.find? key = some value) :
    value ∈ map.values :=
  List.mem_map.mpr ⟨(key, value), find?_eq_some_iff.mp found, rfl⟩

theorem ascending_keys (map : OrderedMap κ ν) : map.keys.Pairwise fun a b => Ranked.rank a < Ranked.rank b :=
  List.pairwise_map.mpr map.ascending

theorem nodup_keys (map : OrderedMap κ ν) : map.keys.Nodup :=
  map.ascending_keys.imp fun below same => Nat.ne_of_lt below (congrArg Ranked.rank same)

/-- Maps with the same keys list them in the same order. -/
theorem keys_eq_of_mem_iff {ω : Type} {one : OrderedMap κ ν} {other : OrderedMap κ ω}
    (same : ∀ key, key ∈ one.keys ↔ key ∈ other.keys) : one.keys = other.keys := by
  have perm : one.keys.Perm other.keys := (List.perm_ext_iff_of_nodup one.nodup_keys other.nodup_keys).mpr same
  exact perm.eq_of_pairwise (fun _ _ _ _ below above => absurd below (Nat.lt_asymm above)) one.ascending_keys
    other.ascending_keys

/-- Maps with the same values under the same keys are the same. -/
theorem ext_find? {one other : OrderedMap κ ν} (same : ∀ key, one.find? key = other.find? key) : one = other := by
  have distinct : ∀ map : OrderedMap κ ν, map.entries.Nodup := by
    intro map
    refine map.ascending.imp ?_
    rintro entry _ below rfl
    exact Nat.lt_irrefl _ below
  have perm : one.entries.Perm other.entries := by
    refine (List.perm_ext_iff_of_nodup (distinct one) (distinct other)).mpr fun (key, value) => ?_
    rw [← find?_eq_some_iff, ← find?_eq_some_iff, same]
  have entries : one.entries = other.entries :=
    perm.eq_of_pairwise (fun _ _ _ _ below above => absurd below (Nat.lt_asymm above)) one.ascending other.ascending
  cases one
  cases other
  cases entries
  rfl

/-- Where the later of two entries counts, the last entry with a key does. -/
theorem find?_ofList_concat {list : List (κ × ν)} {entry : κ × ν} {key : κ} {value : ν} :
    (ofList (list ++ [entry])).find? key = some value ↔
      (key = entry.1 ∧ value = entry.2) ∨ (key ≠ entry.1 ∧ (ofList list).find? key = some value) := by
  rw [ofList, List.foldl_append]
  exact find?_insert

/-- The keys of a map are the keys of the entries it was made from. -/
theorem mem_keys_ofList {list : List (κ × ν)} {key : κ} : key ∈ (ofList list).keys ↔ key ∈ list.map Prod.fst := by
  induction list using List.reverseRecOn with
  | nil => exact Iff.rfl
  | append_singleton list entry ih =>
    rw [mem_keys_iff] at ih ⊢
    rw [List.map_append, List.mem_append, ← ih, List.map_singleton, List.mem_singleton]
    simp only [find?_ofList_concat]
    by_cases same : key = entry.1
    · simp [same]
    · simp [same]

/-- What is found is one of the entries that the map was made from. -/
theorem mem_of_find?_ofList {list : List (κ × ν)} {key : κ} {value : ν}
    (found : (ofList list).find? key = some value) : (key, value) ∈ list := by
  induction list using List.reverseRecOn with
  | nil => cases found
  | append_singleton list entry ih =>
    rcases find?_ofList_concat.mp found with ⟨rfl, rfl⟩ | ⟨_, earlier⟩
    · exact List.mem_append_right _ (List.mem_singleton_self _)
    · exact List.mem_append_left _ (ih earlier)

end DspInspector.OrderedMap

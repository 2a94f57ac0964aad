/-!
# Ordered maps

A map whose entries stand in ascending order of their keys, each key once. Keys are ordered by a
number that tells them apart.
-/

namespace DspInspector

/-- Keys that a number tells apart and orders. -/
class Ranked (κ : Type) where
  rank : κ → Nat
  rank_injective : ∀ a b : κ, rank a = rank b → a = b

instance : Ranked Nat := ⟨id, fun _ _ same => same⟩

instance : Ranked UInt32 := ⟨UInt32.toNat, fun _ _ same => UInt32.toNat_inj.mp same⟩

/-- A map with its entries in ascending order. -/
structure OrderedMap (κ ν : Type) [Ranked κ] where
  entries : List (κ × ν)
  ascending : entries.Pairwise fun a b => Ranked.rank a.1 < Ranked.rank b.1 := by simp

namespace OrderedMap

variable {κ ν : Type} [Ranked κ]

/-- The map without entries. -/
def empty : OrderedMap κ ν where
  entries := []

instance : Inhabited (OrderedMap κ ν) := ⟨empty⟩

/-- Puts an entry in its place, instead of the entry with the same key. -/
def insertInto (key : κ) (value : ν) : List (κ × ν) → List (κ × ν)
  | [] => [(key, value)]
  | entry :: entries =>
    if Ranked.rank key < Ranked.rank entry.1 then (key, value) :: entry :: entries
    else if Ranked.rank key = Ranked.rank entry.1 then (key, value) :: entries
    else entry :: insertInto key value entries

theorem key_of_mem_insertInto {key : κ} {value : ν} {entries : List (κ × ν)} {entry : κ × ν}
    (member : entry ∈ insertInto key value entries) : entry.1 = key ∨ entry ∈ entries := by
  induction entries with
  | nil => simp_all [insertInto]
  | cons first rest ih => grind [insertInto]

theorem ascending_insertInto (key : κ) (value : ν) {entries : List (κ × ν)}
    (ascending : entries.Pairwise fun a b => Ranked.rank a.1 < Ranked.rank b.1) :
    (insertInto key value entries).Pairwise fun a b => Ranked.rank a.1 < Ranked.rank b.1 := by
  induction entries with
  | nil => simp [insertInto]
  | cons first rest ih =>
    have parts := List.pairwise_cons.mp ascending
    simp only [insertInto]
    split
    · rename_i less
      refine List.pairwise_cons.mpr ⟨?_, ascending⟩
      intro other member
      rcases List.mem_cons.mp member with rfl | later
      · exact less
      · exact Nat.lt_trans less (parts.1 other later)
    · split
      · rename_i same
        refine List.pairwise_cons.mpr ⟨?_, parts.2⟩
        intro other member
        rw [same]
        exact parts.1 other member
      · refine List.pairwise_cons.mpr ⟨?_, ih parts.2⟩
        intro other member
        rcases key_of_mem_insertInto member with isKey | old
        · rw [isKey]
          omega
        · exact parts.1 other old

/-- The map with one more entry, or with another value under a key it has. -/
def insert (map : OrderedMap κ ν) (key : κ) (value : ν) : OrderedMap κ ν where
  entries := insertInto key value map.entries
  ascending := ascending_insertInto key value map.ascending

/-- The map of some entries; of two with one key the later one counts. -/
def ofList (entries : List (κ × ν)) : OrderedMap κ ν :=
  entries.foldl (fun map entry => map.insert entry.1 entry.2) empty

/-- The value under a key. -/
def find? (map : OrderedMap κ ν) (key : κ) : Option ν :=
  (map.entries.find? fun entry => Ranked.rank entry.1 == Ranked.rank key).map (·.2)

/-- The key has a value. -/
def contains (map : OrderedMap κ ν) (key : κ) : Bool := (map.find? key).isSome

/-- The map without a key. -/
def erase (map : OrderedMap κ ν) (key : κ) : OrderedMap κ ν where
  entries := map.entries.filter fun entry => Ranked.rank entry.1 != Ranked.rank key
  ascending := map.ascending.filter _

/-- The keys in ascending order. -/
def keys (map : OrderedMap κ ν) : List κ := map.entries.map (·.1)

/-- The values in ascending order of their keys. -/
def values (map : OrderedMap κ ν) : List ν := map.entries.map (·.2)

/-- The map has no entry. -/
def isEmpty (map : OrderedMap κ ν) : Bool := map.entries.isEmpty

end OrderedMap

end DspInspector

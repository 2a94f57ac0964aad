import DspInspector.Probe.Prober
import DspInspector.Proofs.Data.Maps

/-!
# Slots and their channels

The active slots of a session come in ascending order (`pairwise_slotsWhere`), each with the channel of
its place among them (`find?_compact`). So a channel in use belongs to one slot.
-/

namespace DspInspector

namespace ActiveSlots

variable {wanted : Probe → Bool} {probes : List Probe}

theorem mem_slotsWhere {slot : Nat} :
    slot ∈ slotsWhere wanted probes ↔ ∃ probe, probes[slot]? = some probe ∧ wanted probe = true := by
  simp only [slotsWhere, List.mem_map, List.mem_filter, Prod.exists, List.mk_mem_zipIdx_iff_getElem?]
  constructor
  · rintro ⟨probe, place, ⟨found, isWanted⟩, rfl⟩
    exact ⟨probe, found, isWanted⟩
  · rintro ⟨probe, found, isWanted⟩
    exact ⟨probe, slot, ⟨found, isWanted⟩, rfl⟩

/-- The slots come in ascending order. -/
theorem pairwise_slotsWhere : (slotsWhere wanted probes).Pairwise (· < ·) := by
  have places : (probes.zipIdx.map Prod.snd).Pairwise (· < ·) := by
    rw [List.zipIdx_map_snd]
    exact List.pairwise_lt_range'
  exact places.sublist (List.filter_sublist.map _)

theorem length_slotsWhere : (slotsWhere wanted probes).length = probes.countP wanted := by
  rw [slotsWhere, List.length_map, ← List.countP_eq_length_filter]
  conv => rhs; rw [← List.zipIdx_map_fst 0 probes, List.countP_map]
  rfl

/-- The probes of the active slots are the active probes, in the same order. -/
theorem map_slotsWhere : (slotsWhere wanted probes).map (probes[·]?) = (probes.filter wanted).map some := by
  have found : ∀ entry ∈ probes.zipIdx.filter (fun entry => wanted entry.1), probes[entry.2]? = some entry.1 := by
    intro entry member
    exact List.mk_mem_zipIdx_iff_getElem?.mp (List.mem_filter.mp member).1
  have filtered : probes.filter wanted = (probes.zipIdx.filter fun entry => wanted entry.1).map (·.1) := by
    conv => lhs; rw [← List.zipIdx_map_fst 0 probes, List.filter_map]
    rfl
  rw [slotsWhere, List.map_map, filtered, List.map_map]
  exact List.map_congr_left found

end ActiveSlots

namespace Prober

variable {slots : List Nat}

theorem entries_compact (ascending : slots.Pairwise (· < ·)) : (compact slots).entries = slots.zipIdx := by
  refine OrderedMap.entries_ofList (List.pairwise_map.mp (?_ : (slots.zipIdx.map Prod.fst).Pairwise (· < ·)))
  rwa [List.zipIdx_map_fst]

/-- The channel of a slot is its place among the active slots. -/
theorem find?_compact (ascending : slots.Pairwise (· < ·)) {slot channel : Nat} :
    (compact slots).find? slot = some channel ↔ slots[channel]? = some slot := by
  rw [OrderedMap.find?_eq_some_iff, entries_compact ascending, List.mk_mem_zipIdx_iff_getElem?]

theorem values_compact (ascending : slots.Pairwise (· < ·)) :
    (compact slots).values = List.range slots.length := by
  rw [OrderedMap.values, entries_compact ascending, List.zipIdx_map_snd, List.range_eq_range']

theorem isEmpty_compact (ascending : slots.Pairwise (· < ·)) : (compact slots).isEmpty = slots.isEmpty := by
  rw [OrderedMap.isEmpty, entries_compact ascending]
  cases slots <;> rfl

end Prober

end DspInspector

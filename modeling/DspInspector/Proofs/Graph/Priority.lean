import DspInspector.Graph.Topology
import Mathlib.Data.List.Nodup

/-!
# Pipelines in order of priority

`Topology.byPriority` is the stable ascending sort (`stablySorted_byPriority`). Sorting again changes nothing, and
where priorities differ, the order in which the pipelines are listed does not matter.
-/

namespace DspInspector.Topology

/-- The same pipelines by ascending priority; those of one priority stand as they are listed. -/
structure StablySorted (listed sorted : List Pipeline) : Prop where
  perm : sorted.Perm listed
  ascending : sorted.Pairwise fun a b => a.priority ≤ b.priority
  stable : ∀ priority, sorted.filter (·.priority == priority) = listed.filter (·.priority == priority)

variable {pipelines listing : List Pipeline}

theorem perm_byPriority (pipelines : List Pipeline) : (byPriority pipelines).Perm pipelines :=
  List.mergeSort_perm pipelines _

@[simp] theorem mem_byPriority {pipeline : Pipeline} : pipeline ∈ byPriority pipelines ↔ pipeline ∈ pipelines :=
  List.mem_mergeSort

private theorem le_trans (a b c : Pipeline) (first : decide (a.priority ≤ b.priority) = true)
    (second : decide (b.priority ≤ c.priority) = true) : decide (a.priority ≤ c.priority) = true := by
  rw [decide_eq_true_iff] at *
  exact UInt32.le_trans first second

private theorem le_total (a b : Pipeline) :
    (decide (a.priority ≤ b.priority) || decide (b.priority ≤ a.priority)) = true := by
  simpa using UInt32.le_total a.priority b.priority

theorem ascending_byPriority (pipelines : List Pipeline) :
    (byPriority pipelines).Pairwise fun a b => a.priority ≤ b.priority :=
  (List.pairwise_mergeSort le_trans le_total pipelines).imp of_decide_eq_true

theorem stablySorted_byPriority (pipelines : List Pipeline) : StablySorted pipelines (byPriority pipelines) where
  perm := perm_byPriority pipelines
  ascending := ascending_byPriority pipelines
  stable priority := by
    -- The pipelines of one priority are in order already, so the sort keeps them as a sublist, and it adds none.
    have level : (pipelines.filter (·.priority == priority)).Pairwise fun a b =>
        decide (a.priority ≤ b.priority) = true := by
      refine List.pairwise_of_forall_mem_list fun a aMember b bMember => ?_
      have same : a.priority = b.priority := by
        rw [beq_iff_eq.mp (List.mem_filter.mp aMember).2, beq_iff_eq.mp (List.mem_filter.mp bMember).2]
      simp [same]
    have kept : (pipelines.filter (·.priority == priority)).Sublist (byPriority pipelines) :=
      List.sublist_mergeSort le_trans le_total level List.filter_sublist
    have within := kept.filter (·.priority == priority)
    rw [List.filter_filter] at within
    simp only [Bool.and_self] at within
    exact (within.eq_of_length ((perm_byPriority pipelines).filter _).length_eq.symm).symm

/-- Pipelines that are in order stay as they are. -/
theorem byPriority_of_ascending (ascending : pipelines.Pairwise fun a b => a.priority ≤ b.priority) :
    byPriority pipelines = pipelines :=
  List.mergeSort_of_pairwise (ascending.imp decide_eq_true)

/-- Where all priorities differ, it does not matter how the pipelines are listed. -/
theorem byPriority_eq_of_perm (relisted : listing.Perm pipelines)
    (distinct : (pipelines.map (·.priority)).Nodup) : byPriority listing = byPriority pipelines := by
  refine List.Perm.eq_of_pairwise (fun a b aMember bMember low high => ?_) (ascending_byPriority listing)
    (ascending_byPriority pipelines) ?_
  · have aListed : a ∈ pipelines := relisted.subset (mem_byPriority.mp aMember)
    exact List.inj_on_of_nodup_map distinct aListed (mem_byPriority.mp bMember) (UInt32.le_antisymm low high)
  · exact (perm_byPriority listing).trans (relisted.trans (perm_byPriority pipelines).symm)

end DspInspector.Topology

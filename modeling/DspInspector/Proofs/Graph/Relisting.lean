import DspInspector.Proofs.Graph.Conservation
import DspInspector.Proofs.Graph.Relinking

/-!
# The order in which pipelines are listed

Which pins are linked depends on the order in which pipelines of one priority are listed, but how many does not. Per
queue, the numbers of links and of pins without a peer follow from the pins that may be linked
(`InstanceMap.totals_of_resolve`), and these are the same for every listing. Where all priorities differ, the listing
makes no difference at all (`Topology.computeLinks_relisted`).
-/

namespace DspInspector

namespace InstanceMap

open Matching

variable (instances : InstanceMap)

/-- The links are on these queues: both pins of each may be linked through its queue. -/
def OnQueues (links : List Link) (queues : List UInt32) : Prop :=
  List.Forall₂ (fun link queue => ∀ name ∈ link.ends, instances.Linkable name queue) links queues

/-- The number of links whose pins are both found on a queue. -/
def linksOn (queue : UInt32) (links : List Link) : Nat :=
  links.countP fun link => ∀ name ∈ link.ends, instances.queueOf name = some queue

/-- The number of pins on one side and on a queue. -/
def freeOn (direction : Direction) (queue : UInt32) (pins : List Endpoint) : Nat :=
  pins.countP fun pin => pin.direction = direction ∧ pin.queueId = queue

/-- The numbers of links and of pins without a peer, for so many outputs and inputs on each queue. -/
structure Totals (outputs inputs : UInt32 → Nat) (resolution : Resolution) : Prop where
  onQueues : ∃ queues, instances.OnQueues resolution.links queues ∧
    ∀ queue, queues.count queue = min (outputs queue) (inputs queue)
  linksOn : instances.Numbered → ∀ queue,
    instances.linksOn queue resolution.links = min (outputs queue) (inputs queue)
  freeOutputs : ∀ queue, freeOn .output queue resolution.unresolved = outputs queue - inputs queue
  freeInputs : ∀ queue, freeOn .input queue resolution.unresolved = inputs queue - outputs queue

variable {instances} {pipelines listing : List Pipeline}

theorem freeOn_append (direction : Direction) (queue : UInt32) (first second : List Endpoint) :
    freeOn direction queue (first ++ second) = freeOn direction queue first + freeOn direction queue second :=
  List.countP_append

theorem freeOn_same {direction : Direction} {pins : List Endpoint} (side : ∀ pin ∈ pins, pin.direction = direction)
    (queue : UInt32) : freeOn direction queue pins = countOn queue pins := by
  rw [countOn, onQueue, ← List.countP_eq_length_filter]
  exact List.countP_congr fun pin member => by simp [side pin member]

theorem freeOn_other {direction other : Direction} {pins : List Endpoint} (side : ∀ pin ∈ pins, pin.direction = other)
    (differ : other ≠ direction) (queue : UInt32) : freeOn direction queue pins = 0 := by
  refine List.countP_eq_zero.mpr fun pin member => ?_
  simp [side pin member, differ]

theorem countOn_freeOutputs (instances : InstanceMap) (pipelines : List Pipeline) (queue : UInt32) :
    countOn queue (surplus (instances.allSpareOutputs pipelines) (instances.allSpareInputs pipelines)) =
      countOn queue (instances.candidatesOn .output pipelines) -
        countOn queue (instances.candidatesOn .input pipelines) := by
  have all := countOn_perm (linked_outputs_perm instances pipelines) queue
  rw [countOn_append, countOn_map, countP_linkedPairs] at all
  omega

theorem countOn_freeInputs (instances : InstanceMap) (pipelines : List Pipeline) (queue : UInt32) :
    countOn queue (surplus (instances.allSpareInputs pipelines) (instances.allSpareOutputs pipelines)) =
      countOn queue (instances.candidatesOn .input pipelines) -
        countOn queue (instances.candidatesOn .output pipelines) := by
  have all := countOn_perm (linked_inputs_perm instances pipelines) queue
  have sameQueue : (instances.linkedPairs pipelines).countP (·.2.queueId == queue) =
      (instances.linkedPairs pipelines).countP (·.1.queueId == queue) :=
    List.countP_congr fun pair linked => by rw [queueId_eq_of_linked linked]
  rw [countOn_append, countOn_map, sameQueue, countP_linkedPairs] at all
  omega

/-- Resolution links as many pins on a queue as the scarcer side has there, and leaves the rest. -/
theorem totals_of_resolve {resolution : Resolution} (resolved : instances.resolve pipelines = .ok resolution) :
    instances.Totals (fun queue => countOn queue (instances.candidatesOn .output pipelines))
      (fun queue => countOn queue (instances.candidatesOn .input pipelines)) resolution := by
  obtain ⟨-, rfl⟩ := resolve_eq_ok_iff.mp resolved
  have onQueues : instances.OnQueues _ _ := linkable_linkedPairs instances pipelines
  have counts := count_linkedPairs instances pipelines
  have outputs : ∀ pin ∈ surplus (instances.allSpareOutputs pipelines) (instances.allSpareInputs pipelines),
      pin.direction = .output := fun _ => output_of_mem_surplus
  have inputs : ∀ pin ∈ surplus (instances.allSpareInputs pipelines) (instances.allSpareOutputs pipelines),
      pin.direction = .input := fun _ => input_of_mem_surplus
  refine ⟨⟨_, onQueues, counts⟩, ?_, ?_, ?_⟩
  · intro numbered queue
    rw [← counts]
    exact countP_of_forall₂ queue (onQueues.imp fun link own all name member =>
      queueOf_of_linkable numbered (all name member))
  · intro queue
    rw [freePins, freeOn_append, freeOn_same outputs, freeOn_other inputs (by decide), countOn_freeOutputs,
      Nat.add_zero]
  · intro queue
    rw [freePins, freeOn_append, freeOn_other outputs (by decide), freeOn_same inputs, countOn_freeInputs,
      Nat.zero_add]

/-- The pins that may be linked are the same for every listing. -/
theorem candidatesOn_perm (relisted : listing.Perm pipelines) (direction : Direction) :
    (instances.candidatesOn direction listing).Perm (instances.candidatesOn direction pipelines) :=
  relisted.flatMap_right _

/-- The totals are the same for every listing. -/
theorem totals_congr (relisted : listing.Perm pipelines) {resolution : Resolution}
    (resolved : instances.resolve listing = .ok resolution) :
    instances.Totals (fun queue => countOn queue (instances.candidatesOn .output pipelines))
      (fun queue => countOn queue (instances.candidatesOn .input pipelines)) resolution := by
  have totals := totals_of_resolve resolved
  simpa only [countOn_perm (candidatesOn_perm relisted _)] using totals

end InstanceMap

namespace Topology

open InstanceMap

/-- On every queue, both topologies have as many links, as many outputs without a peer and as many inputs without
one. -/
structure SameTotals (one other : Topology) : Prop where
  /-- Both lists of links can be assigned to queues, with equally many links on each. -/
  onQueues : ∃ queues others, one.instances.OnQueues one.links queues ∧ other.instances.OnQueues other.links others ∧
    ∀ queue, queues.count queue = others.count queue
  /-- Where pin numbers tell the pins of a side apart, as many links are found on each queue. -/
  linksOn : one.instances.Numbered → ∀ queue,
    one.instances.linksOn queue one.links = other.instances.linksOn queue other.links
  freeOutputs : ∀ queue, freeOn .output queue one.unresolved = freeOn .output queue other.unresolved
  freeInputs : ∀ queue, freeOn .input queue one.unresolved = freeOn .input queue other.unresolved

/-- However the pipelines of a topology are listed, its links can be computed or not, and each queue has the same
numbers of links and of pins without a peer. Where all priorities differ, the result is the same. -/
theorem computeLinks_relisted {topology : Topology} {listing : List Pipeline}
    (relisted : listing.Perm topology.pipelines) :
    ((∃ linked, topology.computeLinks = .ok linked) ↔
      ∃ other, { topology with pipelines := listing }.computeLinks = .ok other) ∧
    ∀ linked other, topology.computeLinks = .ok linked →
      { topology with pipelines := listing }.computeLinks = .ok other →
      SameTotals linked other ∧ ((topology.pipelines.map (·.priority)).Nodup → other = linked) := by
  constructor
  · rw [exists_computeLinks_iff, exists_computeLinks_iff]
    exact forall_congr' fun pipeline => imp_congr_left relisted.mem_iff.symm
  · intro linked other computed recomputed
    obtain ⟨resolution, resolved, rfl⟩ := computeLinks_eq_ok_iff.mp computed
    obtain ⟨resolution', resolved', rfl⟩ := computeLinks_eq_ok_iff.mp recomputed
    constructor
    · have one := totals_congr (perm_byPriority topology.pipelines) resolved
      have two := totals_congr ((perm_byPriority listing).trans relisted) resolved'
      obtain ⟨queues, onQueues, counts⟩ := one.onQueues
      obtain ⟨others, onOthers, otherCounts⟩ := two.onQueues
      refine ⟨⟨queues, others, onQueues, onOthers, fun queue => ?_⟩, ?_, ?_, ?_⟩
      · exact (counts queue).trans (otherCounts queue).symm
      · exact fun numbered queue => (one.linksOn numbered queue).trans (two.linksOn numbered queue).symm
      · exact fun queue => (one.freeOutputs queue).trans (two.freeOutputs queue).symm
      · exact fun queue => (one.freeInputs queue).trans (two.freeInputs queue).symm
    · intro distinct
      have sameOrder : byPriority listing = byPriority topology.pipelines := byPriority_eq_of_perm relisted distinct
      have same : resolution' = resolution := by
        have both : topology.instances.resolve (byPriority listing) = .ok resolution' := resolved'
        rw [sameOrder, resolved] at both
        exact (Except.ok.inj both).symm
      simp only [withResolution, same, sameOrder]

/-- Two sources and a sink on one queue, each in a pipeline of its own. -/
def contested (first second third : UInt32) : Topology :=
  let pins := List.map (Pin.pcm AudioFormat.standard)
  let props := [
    { InstanceProps.bare ⟨1, 0⟩ with outputPins := pins [5] },
    { InstanceProps.bare ⟨2, 0⟩ with outputPins := pins [5] },
    { InstanceProps.bare ⟨3, 0⟩ with inputPins := pins [5] }]
  .of ⟨0, 0⟩ props [] [.bare 1 first [⟨1, 0⟩], .bare 2 second [⟨2, 0⟩], .bare 3 third [⟨3, 0⟩]] []

/-- The contested topology with its pipelines listed the other way round. -/
def contestedReversed (first second third : UInt32) : Topology :=
  { contested first second third with pipelines := (contested first second third).pipelines.reverse }

/-- Where all priorities are the same, the source that is listed first gets the sink, and one source is left either
way. Where they differ, the listing does not matter. -/
theorem contested_relisted :
    (∃ linked other, (contested 0 0 0).computeLinks = .ok linked ∧ (contestedReversed 0 0 0).computeLinks = .ok other ∧
      linked.links = [⟨⟨1, 0⟩, 0, ⟨3, 0⟩, 0⟩] ∧ other.links = [⟨⟨2, 0⟩, 0, ⟨3, 0⟩, 0⟩] ∧ SameTotals linked other) ∧
    ∃ linked, (contested 1 2 3).computeLinks = .ok linked ∧ (contestedReversed 1 2 3).computeLinks = .ok linked := by
  have relisted (first second third : UInt32) : (contestedReversed first second third).pipelines.Perm
      (contested first second third).pipelines := List.reverse_perm _
  constructor
  · have linked := computeLinks_eq (contested 0 0 0)
    have other := computeLinks_eq (contestedReversed 0 0 0)
    rw [byPriority_of_ascending (by decide)] at linked other
    exact ⟨_, _, linked, other, rfl, rfl, ((computeLinks_relisted (relisted 0 0 0)).2 _ _ linked other).1⟩
  · have linked := computeLinks_eq (contested 1 2 3)
    rw [byPriority_of_ascending (by decide)] at linked
    obtain ⟨other, recomputed⟩ := (computeLinks_relisted (relisted 1 2 3)).1.mp ⟨_, linked⟩
    have same := ((computeLinks_relisted (relisted 1 2 3)).2 _ _ linked recomputed).2 (by decide)
    rw [same] at recomputed
    exact ⟨_, linked, recomputed⟩

end Topology

end DspInspector

import DspInspector.Proofs.Data.Maps
import DspInspector.Proofs.Data.Outcomes
import DspInspector.Proofs.Graph.Priority
import DspInspector.Proofs.Graph.Resolution

/-!
# Links are computed as a whole or not at all

Resolution looks instances up as it goes. It fails at the first one that is unknown and names it
(`InstanceMap.blames_resolve`), by which time nothing has been set. So a topology is relinked entirely or left as it
was, and relinking it once more changes nothing (`Topology.relink_all_or_nothing`).
-/

namespace DspInspector

theorem OrderedMap.contains_iff_mem_keys {κ ν : Type} [Ranked κ] {map : OrderedMap κ ν} {key : κ} :
    map.contains key ↔ key ∈ map.keys := by
  rw [OrderedMap.mem_keys_iff, OrderedMap.contains, Option.isSome_iff_exists]

namespace InstanceMap

variable {instances : InstanceMap} {α β : Type}

/-- The result fails exactly when one of the instances is unknown, and names the first one that is. -/
def Blames (instances : InstanceMap) (asked : List InstanceId) (result : Except TopologyError α) : Prop :=
  ∀ cause, result = .error cause ↔
    ∃ id, asked.find? (!instances.contains ·) = some id ∧ cause = .undefinedInstance id

/-- The instances that are looked up for neighbours, in order. -/
def pairLookUps (ids : List InstanceId) : List InstanceId :=
  (neighbours ids).flatMap fun (source, target) => [source, target]

/-- The instances that are looked up for a pipeline, in order: those at its ends, then its neighbours. -/
def lookUps (ids : List InstanceId) : List InstanceId :=
  ids.head?.toList ++ (ids.getLast?.toList ++ pairLookUps ids)

theorem blames_ok (value : α) : instances.Blames [] (.ok value) := by
  intro cause
  constructor
  · rintro ⟨⟩
  · rintro ⟨_, ⟨⟩, _⟩

/-- What is looked up in a sequence of steps is what each of them looks up. -/
theorem Blames.bind {early late : List InstanceId} {first : Except TopologyError α}
    {second : α → Except TopologyError β} (one : instances.Blames early first)
    (two : ∀ value, instances.Blames late (second value)) : instances.Blames (early ++ late) (first >>= second) := by
  intro cause
  cases first with
  | error failure =>
    obtain ⟨id, unknown, rfl⟩ := (one failure).mp rfl
    rw [List.find?_append, unknown]
    constructor
    · rintro ⟨⟩
      exact ⟨id, rfl, rfl⟩
    · rintro ⟨_, ⟨⟩, rfl⟩
      rfl
  | ok value =>
    have known : early.find? (!instances.contains ·) = none := by
      by_contra unknown
      obtain ⟨id, found⟩ := Option.ne_none_iff_exists'.mp unknown
      cases (one (.undefinedInstance id)).mpr ⟨id, found, rfl⟩
    rw [List.find?_append, known, Option.none_or]
    exact two value cause

/-- A last step that cannot fail looks nothing up. -/
theorem Blames.bind_pure {asked : List InstanceId} {first : Except TopologyError α}
    (one : instances.Blames asked first) (finish : α → β) :
    instances.Blames asked (first >>= fun value => pure (finish value)) := by
  have both := one.bind fun value => blames_ok (finish value)
  rwa [List.append_nil] at both

theorem blames_endpoints (id : InstanceId) (direction : Direction) :
    instances.Blames [id] (endpoints instances id direction) := by
  intro cause
  unfold endpoints props
  rw [List.find?_singleton]
  cases found : instances.find? id with
  | none =>
    have unknown : instances.contains id = false := by rw [OrderedMap.contains, found]; rfl
    simp [unknown, bind, Except.bind, eq_comm]
  | some props =>
    have known : instances.contains id = true := by rw [OrderedMap.contains, found]; rfl
    simp [known, bind, Except.bind, pure, Except.pure]

theorem blames_matchPair (source target : InstanceId) :
    instances.Blames [source, target] (matchPair instances source target) :=
  (blames_endpoints source .output).bind fun _ => (blames_endpoints target .input).bind_pure _

theorem blames_matchPairs : ∀ ids : List InstanceId,
    instances.Blames (pairLookUps ids) (matchPairs instances ids)
  | [] => blames_ok _
  | [_] => blames_ok _
  | source :: target :: ids =>
    (blames_matchPair source target).bind fun _ => (blames_matchPairs (target :: ids)).bind_pure _

theorem blames_matchPipeline (ids : List InstanceId) :
    instances.Blames (lookUps ids) (matchPipeline instances ids) := by
  cases ids with
  | nil => exact blames_ok _
  | cons first rest =>
    obtain ⟨last, isLast⟩ : ∃ last, (first :: rest).getLast? = some last :=
      ⟨_, List.getLast?_eq_some_getLast (by simp)⟩
    simp only [lookUps, matchPipeline, List.head?_cons, isLast, Option.toList_some]
    refine (blames_endpoints first .input).bind fun inputs => ?_
    refine (blames_endpoints last .output).bind fun outputs => ?_
    exact (blames_matchPairs (first :: rest)).bind_pure _

theorem blames_matchPipelines : ∀ pipelines : List Pipeline,
    instances.Blames (pipelines.flatMap fun pipeline => lookUps pipeline.instances)
      (matchPipelines instances pipelines)
  | [] => blames_ok _
  | pipeline :: pipelines =>
    (blames_matchPipeline pipeline.instances).bind fun _ => (blames_matchPipelines pipelines).bind_pure _

/-- Resolution fails at the first unknown instance that it looks up, and names it. -/
theorem blames_resolve (pipelines : List Pipeline) :
    instances.Blames (pipelines.flatMap fun pipeline => lookUps pipeline.instances) (instances.resolve pipelines) :=
  (blames_matchPipelines pipelines).bind_pure _

/-- Only instances of the pipeline are looked up. -/
theorem mem_of_mem_lookUps {ids : List InstanceId} {id : InstanceId} (asked : id ∈ lookUps ids) : id ∈ ids := by
  simp only [lookUps, pairLookUps, List.mem_append, Option.mem_toList, List.mem_flatMap, List.mem_cons,
    List.not_mem_nil, or_false] at asked
  rcases asked with first | last | ⟨⟨source, target⟩, adjacent, rfl | rfl⟩
  · exact List.mem_of_mem_head? first
  · exact List.mem_of_mem_getLast? last
  · exact (List.of_mem_zip adjacent).1
  · exact List.mem_of_mem_tail (List.of_mem_zip adjacent).2

/-- What fails to resolve names an unknown instance of one of the pipelines. -/
theorem exists_of_resolve_eq_error {pipelines : List Pipeline} {cause : TopologyError}
    (failed : instances.resolve pipelines = .error cause) :
    ∃ pipeline ∈ pipelines, ∃ id ∈ pipeline.instances, id ∉ instances.keys ∧ cause = .undefinedInstance id := by
  obtain ⟨id, found, rfl⟩ := (blames_resolve pipelines cause).mp failed
  obtain ⟨pipeline, listed, asked⟩ := List.mem_flatMap.mp (List.mem_of_find?_eq_some found)
  refine ⟨pipeline, listed, id, mem_of_mem_lookUps asked, ?_, rfl⟩
  rw [← OrderedMap.contains_iff_mem_keys]
  simpa using List.find?_some found

end InstanceMap

namespace Topology

/-- The failure names an instance that a pipeline refers to and that is not there. -/
def Names (topology : Topology) (cause : TopologyError) : Prop :=
  ∃ pipeline ∈ topology.pipelines, ∃ id ∈ pipeline.instances,
    id ∉ topology.instances.keys ∧ cause = .undefinedInstance id

/-- The second topology is the first one with its pipelines sorted and its links computed. -/
structure Relinked (before after : Topology) : Prop where
  sorted : StablySorted before.pipelines after.pipelines
  resolved : before.instances.resolve after.pipelines = .ok ⟨after.links, after.unresolved⟩
  gatewayPeers : after.gatewayPeers = peers before.instances before.gateways
  instances : after.instances = before.instances
  gateways : after.gateways = before.gateways
  schedules : after.schedules = before.schedules
  capturedAt : after.capturedAt = before.capturedAt

/-- The topology with what resolution found. -/
def withResolution (topology : Topology) (resolution : Resolution) : Topology :=
  { topology with
    pipelines := byPriority topology.pipelines
    links := resolution.links
    unresolved := resolution.unresolved
    gatewayPeers := peers topology.instances topology.gateways }

variable {topology linked : Topology}

theorem computeLinks_eq (topology : Topology) : topology.computeLinks =
    (topology.instances.resolve (byPriority topology.pipelines)).map topology.withResolution := by
  change topology.instances.resolve (byPriority topology.pipelines) >>= _ = _
  cases topology.instances.resolve (byPriority topology.pipelines) <;> rfl

theorem computeLinks_eq_ok_iff : topology.computeLinks = .ok linked ↔ ∃ resolution,
    topology.instances.resolve (byPriority topology.pipelines) = .ok resolution ∧
      linked = topology.withResolution resolution := by
  rw [computeLinks_eq]
  cases topology.instances.resolve (byPriority topology.pipelines) <;> simp [Except.map, eq_comm]

/-- Links can be computed exactly when no pipeline refers to an instance that is not there. -/
theorem exists_computeLinks_iff : (∃ linked, topology.computeLinks = .ok linked) ↔
    ∀ pipeline ∈ topology.pipelines, ∀ id ∈ pipeline.instances, id ∈ topology.instances.keys := by
  have known : ∀ resolution, topology.instances.resolve (byPriority topology.pipelines) = .ok resolution ↔ _ :=
    fun _ => InstanceMap.resolve_eq_ok_iff
  simp only [computeLinks_eq_ok_iff, known, mem_byPriority, OrderedMap.contains_iff_mem_keys]
  constructor
  · rintro ⟨_, _, ⟨complete, _⟩, _⟩
    exact complete
  · intro complete
    exact ⟨_, _, ⟨complete, rfl⟩, rfl⟩

/-- Relinking gives what the computation of links gives, or leaves the topology as it is. -/
theorem relink_eq (topology : Topology) : relink topology =
    match topology.computeLinks with
    | .ok linked => .ok () linked
    | .error cause => .error cause topology := by
  rw [computeLinks_eq]
  change EStateM.bind (Action.ofExcept (topology.instances.resolve (byPriority topology.pipelines))) _ topology = _
  cases topology.instances.resolve (byPriority topology.pipelines) <;> rfl

/-- A topology that was linked has these links for good. -/
theorem computeLinks_linked (computed : topology.computeLinks = .ok linked) : linked.computeLinks = .ok linked := by
  obtain ⟨resolution, resolved, rfl⟩ := computeLinks_eq_ok_iff.mp computed
  have resorted : byPriority (byPriority topology.pipelines) = byPriority topology.pipelines :=
    byPriority_of_ascending (ascending_byPriority topology.pipelines)
  refine computeLinks_eq_ok_iff.mpr ⟨resolution, ?_, ?_⟩
  · show topology.instances.resolve (byPriority (byPriority topology.pipelines)) = .ok resolution
    rw [resorted]
    exact resolved
  · simp only [withResolution, resorted]

theorem relinked_of_computeLinks (computed : topology.computeLinks = .ok linked) : Relinked topology linked := by
  obtain ⟨resolution, resolved, rfl⟩ := computeLinks_eq_ok_iff.mp computed
  exact ⟨stablySorted_byPriority topology.pipelines, resolved, rfl, rfl, rfl, rfl, rfl⟩

theorem names_of_computeLinks {cause : TopologyError} (failed : topology.computeLinks = .error cause) :
    topology.Names cause := by
  have unresolved : topology.instances.resolve (byPriority topology.pipelines) = .error cause := by
    rw [computeLinks_eq] at failed
    cases resolved : topology.instances.resolve (byPriority topology.pipelines) with
    | error other =>
      rw [resolved] at failed
      cases failed
      rfl
    | ok resolution =>
      rw [resolved] at failed
      cases failed
  obtain ⟨pipeline, listed, named⟩ := InstanceMap.exists_of_resolve_eq_error unresolved
  exact ⟨pipeline, mem_byPriority.mp listed, named⟩

/-- Relinking fails exactly when a pipeline refers to an instance that is not there. Then it names such an instance
and leaves the topology as it was; otherwise it sorts the pipelines, sets the links of these and the peers of the
gateways, leaves all else as it was, and would change nothing if it were done again. -/
theorem relink_all_or_nothing (topology : Topology) :
    ((∃ cause after, relink topology = .error cause after) ↔
      ∃ pipeline ∈ topology.pipelines, ∃ id ∈ pipeline.instances, id ∉ topology.instances.keys) ∧
    relink.Yields topology
      (fun _ after => Relinked topology after ∧ relink after = .ok () after)
      (fun cause after => topology.Names cause ∧ after = topology) := by
  rw [Action.Yields, relink_eq]
  cases computed : topology.computeLinks with
  | ok linked =>
    have complete := exists_computeLinks_iff.mp ⟨linked, computed⟩
    refine ⟨⟨?_, ?_⟩, relinked_of_computeLinks computed, ?_⟩
    · rintro ⟨_, _, ⟨⟩⟩
    · rintro ⟨pipeline, listed, id, member, missing⟩
      exact absurd (complete pipeline listed id member) missing
    · rw [relink_eq, computeLinks_linked computed]
  | error cause =>
    have named := names_of_computeLinks computed
    refine ⟨⟨fun _ => ?_, fun _ => ⟨cause, topology, rfl⟩⟩, named, rfl⟩
    obtain ⟨pipeline, listed, id, member, missing, -⟩ := named
    exact ⟨pipeline, listed, id, member, missing⟩

end Topology

end DspInspector

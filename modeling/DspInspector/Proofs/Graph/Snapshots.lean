import DspInspector.Graph.Snapshot
import DspInspector.Proofs.Control.Simulated
import DspInspector.Proofs.Data.Maps
import DspInspector.Proofs.Graph.Resolution

/-!
# Snapshots of an image

Acquiring a topology from the simulated firmware gives the objects of the image and the links between them. It
fails in one case only: the image holds an instance in the place of the base firmware, which answers there for
itself.
-/

namespace DspInspector

namespace Snapshot

/-- Exactly the instances of pipelines and tasks are referred to. -/
theorem mem_referenced {pipelines : List Pipeline} {schedules : List CoreSchedule} {id : InstanceId} :
    id ∈ referenced pipelines schedules ↔
      (∃ pipeline ∈ pipelines, id ∈ pipeline.instances) ∨ ∃ schedule ∈ schedules, id ∈ schedule.instances := by
  rw [referenced, OrderedMap.mem_keys_ofList, List.map_map, ← List.mem_flatMap, ← List.mem_flatMap, ← List.mem_append]
  simp

end Snapshot

/-! ## Objects of an image -/

namespace Image

open Snapshot

/-- A pipeline or a task of the image refers to the instance. -/
def Refers (image : Image) (id : InstanceId) : Prop :=
  (∃ pipeline ∈ image.pipelines, id ∈ pipeline.instances) ∨ ∃ schedule ∈ image.schedules, id ∈ schedule.instances

instance (image : Image) (id : InstanceId) : Decidable (image.Refers id) := inferInstanceAs (Decidable (_ ∨ _))

/-- The image has every instance that it refers to, and each instance stands under its own id. -/
@[mk_iff]
structure Complete (image : Image) : Prop where
  pipelines : ∀ pipeline ∈ image.pipelines, ∀ id ∈ pipeline.instances, image.instances.contains id
  schedules : ∀ schedule ∈ image.schedules, ∀ id ∈ schedule.instances, image.instances.contains id
  own : ∀ entry ∈ image.instances.entries, entry.2.id = entry.1

instance (image : Image) : Decidable image.Complete := decidable_of_iff _ image.complete_iff.symm

/-- The instances that the image refers to, in ascending order. -/
def referencedInstances (image : Image) : List InstanceProps :=
  (referenced image.pipelines image.schedules).filterMap image.instances.find?

/-- The objects of the image, without links. -/
def objects (image : Image) (capturedAt : Timestamp) : Topology :=
  .of capturedAt image.referencedInstances image.gateways image.pipelines image.schedules

variable {image : Image}

theorem Complete.covers (complete : image.Complete) {id : InstanceId} (refers : image.Refers id) :
    ∃ props, image.instances.find? id = some props := by
  apply Option.isSome_iff_exists.mp
  rcases refers with ⟨pipeline, listed, member⟩ | ⟨schedule, listed, member⟩
  · exact complete.pipelines pipeline listed id member
  · exact complete.schedules schedule listed id member

theorem Complete.id_eq (complete : image.Complete) {id : InstanceId} {props : InstanceProps}
    (found : image.instances.find? id = some props) : props.id = id :=
  complete.own (id, props) (OrderedMap.find?_eq_some_iff.mp found)

/-- The values that are found for some keys stand to them as each one does. -/
theorem forall₂_filterMap {κ ν : Type} {find : κ → Option ν} {R : κ → ν → Prop} {keys : List κ}
    (known : ∀ key ∈ keys, ∃ value, find key = some value ∧ R key value) :
    List.Forall₂ R keys (keys.filterMap find) := by
  induction keys with
  | nil => exact .nil
  | cons key keys ih =>
    obtain ⟨⟨value, found, related⟩, others⟩ := List.forall_mem_cons.mp known
    rw [List.filterMap_cons_some found]
    exact .cons related (ih others)

theorem mem_referencedInstances (complete : image.Complete) {props : InstanceProps} :
    props ∈ image.referencedInstances ↔ image.Refers props.id ∧ image.instances.find? props.id = some props := by
  rw [referencedInstances, List.mem_filterMap]
  constructor
  · rintro ⟨id, member, found⟩
    obtain rfl := complete.id_eq found
    exact ⟨mem_referenced.mp member, found⟩
  · rintro ⟨refers, found⟩
    exact ⟨props.id, mem_referenced.mpr refers, found⟩

/-- The instances of a snapshot are those that are referred to, each as the image has it. -/
theorem find?_objects (complete : image.Complete) (capturedAt : Timestamp) (id : InstanceId) (props : InstanceProps) :
    (image.objects capturedAt).instances.find? id = some props ↔
      image.Refers id ∧ image.instances.find? id = some props := by
  have sound : ∀ found, (image.objects capturedAt).instances.find? id = some found →
      image.Refers id ∧ image.instances.find? id = some found := by
    intro found has
    obtain ⟨listed, member, same⟩ := List.mem_map.mp (OrderedMap.mem_of_find?_ofList has)
    cases same
    exact (mem_referencedInstances complete).mp member
  refine ⟨sound props, ?_⟩
  rintro ⟨refers, found⟩
  have own := complete.id_eq found
  have listed : props ∈ image.referencedInstances := by
    rw [mem_referencedInstances complete, own]
    exact ⟨refers, found⟩
  have key : id ∈ (image.referencedInstances.map fun props => (props.id, props)).map Prod.fst := by
    rw [List.map_map]
    exact List.mem_map.mpr ⟨props, listed, own⟩
  obtain ⟨other, has⟩ := OrderedMap.mem_keys_iff.mp (OrderedMap.mem_keys_ofList.mpr key)
  have same := (sound other has).2
  rw [found, Option.some.injEq] at same
  rw [same]
  exact has

/-- The topology has the objects of the image: its pipelines by priority, and those of its instances that are
referred to. -/
structure Shows (image : Image) (topology : Topology) : Prop where
  pipelines : topology.pipelines = Topology.byPriority image.pipelines
  schedules : topology.schedules = image.schedules
  gateways : topology.gateways = image.gateways
  instances : ∀ id props, topology.instances.find? id = some props ↔
    image.Refers id ∧ image.instances.find? id = some props

/-- The links of a complete image can be computed, which leaves its objects as they are. -/
theorem exists_computeLinks (complete : image.Complete) (capturedAt : Timestamp) :
    ∃ topology, (image.objects capturedAt).computeLinks = .ok topology ∧ image.Shows topology := by
  have known : ∀ pipeline ∈ Topology.byPriority image.pipelines, ∀ id ∈ pipeline.instances,
      (image.objects capturedAt).instances.contains id := by
    intro pipeline sorted id member
    have refers : image.Refers id := .inl ⟨pipeline, List.mem_mergeSort.mp sorted, member⟩
    obtain ⟨props, found⟩ := complete.covers refers
    rw [OrderedMap.contains, (find?_objects complete capturedAt id props).mpr ⟨refers, found⟩]
    rfl
  have resolved := InstanceMap.resolve_eq_ok_iff.mpr ⟨known, rfl⟩
  simp only [Topology.computeLinks]
  show ∃ topology, (InstanceMap.resolve _ (Topology.byPriority image.pipelines) >>= _) = .ok topology ∧ _
  rw [resolved]
  exact ⟨_, rfl, rfl, rfl, rfl, find?_objects complete capturedAt⟩

end Image

namespace Simulation

open Snapshot Connection

variable {image : Image}

/-- A core that can be asked for has a next one. -/
theorem toNat_nextCore {core : UInt32} (range : core.toNat < 2 ^ 24) : (core + 1).toNat = core.toNat + 1 := by
  rw [UInt32.toNat_add]
  exact Nat.mod_eq_of_lt (Nat.lt_of_le_of_lt range (by decide))

theorem gives_schedulesFrom (wellFormed : image.WellFormed) (few : image.cores.toNat ≤ 2 ^ 24) (count : Nat) :
    ∀ core : UInt32, core.toNat + count = image.schedules.length →
      Gives (schedulesFrom (transport image) count core) (image.schedules.drop core.toNat) := by
  induction count with
  | zero =>
    intro core whole
    have done : image.schedules.drop core.toNat = [] := List.drop_of_length_le (Nat.le_of_eq whole.symm)
    rw [done]
    exact gives_pure []
  | succ count ih =>
    intro core whole
    have total := wellFormed.scheduleCount
    have inside : core.toNat < image.schedules.length := by omega
    have next := toNat_nextCore (show core.toNat < 2 ^ 24 by omega)
    have schedule : Gives (coreSchedule (transport image) core) image.schedules[core.toNat] :=
      gives_coreSchedule wellFormed (by omega) (List.getElem?_eq_getElem inside)
    have others := ih (core + 1) (by omega)
    rw [next] at others
    rw [List.drop_eq_getElem_cons inside]
    exact schedule.bind (others.bind (gives_pure _))

theorem gives_pipelines (wellFormed : image.WellFormed) :
    Gives ((image.pipelines.map (·.id)).mapM (pipelineProps (transport image))) image.pipelines := by
  refine gives_mapM (List.forall₂_map_left_iff.mpr (List.forall₂_same.mpr fun pipeline member => ?_))
  exact gives_pipelineProps wellFormed member

theorem gives_schedules (wellFormed : image.WellFormed) (few : image.cores.toNat ≤ 2 ^ 24) :
    Gives (schedulesFrom (transport image) image.cores.toNat 0) image.schedules :=
  gives_schedulesFrom wellFormed few image.cores.toNat 0 ((Nat.zero_add _).trans wellFormed.scheduleCount.symm)

/-- The cores are gone through up to the first one whose number does not fit. -/
theorem fails_schedulesFrom (wellFormed : image.WellFormed) (count : Nat) :
    ∀ core : UInt32, core.toNat + count = image.schedules.length → core.toNat ≤ 2 ^ 24 →
      2 ^ 24 < core.toNat + count → Fails (schedulesFrom (transport image) count core) := by
  induction count with
  | zero =>
    intro core _ fits many
    exact absurd many (Nat.not_lt.mpr fits)
  | succ count ih =>
    intro core whole fits many
    rcases Nat.lt_or_eq_of_le fits with small | last
    · have next := toNat_nextCore small
      have schedule := gives_coreSchedule wellFormed small
        (List.getElem?_eq_getElem (show core.toNat < image.schedules.length by omega))
      exact schedule.bind_fails ((ih (core + 1) (by omega) (by omega) (by omega)).bind _)
    · exact (fails_coreSchedule (Nat.le_of_eq last.symm)).bind _

theorem fails_schedules (wellFormed : image.WellFormed) (many : 2 ^ 24 < image.cores.toNat) :
    Fails (schedulesFrom (transport image) image.cores.toNat 0) :=
  fails_schedulesFrom wellFormed image.cores.toNat 0 ((Nat.zero_add _).trans wellFormed.scheduleCount.symm)
    (Nat.zero_le _) (Nat.lt_of_lt_of_eq many (Nat.zero_add _).symm)

theorem gives_instances (wellFormed : image.WellFormed) (complete : image.Complete)
    (elsewhere : ¬ image.Refers base) :
    Gives ((referenced image.pipelines image.schedules).mapM (instanceProps (transport image)))
      image.referencedInstances := by
  refine gives_mapM (Image.forall₂_filterMap fun id member => ?_)
  have refers : image.Refers id := mem_referenced.mp member
  obtain ⟨props, found⟩ := complete.covers refers
  refine ⟨props, found, gives_instanceProps wellFormed found ?_⟩
  rintro rfl
  exact elsewhere refers

theorem fails_instances (wellFormed : image.WellFormed) (complete : image.Complete) (refers : image.Refers base) :
    Fails ((referenced image.pipelines image.schedules).mapM (instanceProps (transport image))) := by
  refine fails_mapM (fun id member => ?_) ⟨base, mem_referenced.mpr refers, fails_baseProps⟩
  by_cases place : id = base
  · rw [place]
    exact .inr fails_baseProps
  · obtain ⟨props, found⟩ := complete.covers (mem_referenced.mp member)
    exact .inl ⟨props, gives_instanceProps wellFormed found place⟩

/-! ## Acquiring a topology -/

variable {capturedAt : Timestamp}

theorem gives_acquire (wellFormed : image.WellFormed) (complete : image.Complete) (few : image.cores.toNat ≤ 2 ^ 24)
    (elsewhere : ¬ image.Refers base) {topology : Topology}
    (linked : (image.objects capturedAt).computeLinks = .ok topology) :
    Gives (acquire image.connection (transport image) capturedAt) topology := by
  refine ((gives_pipelineIds wellFormed).mapError _).bind ((gives_pipelines wellFormed).bind ?_)
  refine (gives_schedules wellFormed few).bind (((gives_gateways wellFormed).mapError _).bind ?_)
  refine (gives_instances wellFormed complete elsewhere).bind ?_
  have same : Topology.of capturedAt image.referencedInstances image.gateways image.pipelines image.schedules =
      image.objects capturedAt := rfl
  rw [same, linked]
  exact gives_pure topology

theorem fails_acquire_of_cores (wellFormed : image.WellFormed) (many : 2 ^ 24 < image.cores.toNat) :
    Fails (acquire image.connection (transport image) capturedAt) :=
  ((gives_pipelineIds wellFormed).mapError _).bind_fails
    ((gives_pipelines wellFormed).bind_fails ((fails_schedules wellFormed many).bind _))

theorem fails_acquire_of_base (wellFormed : image.WellFormed) (complete : image.Complete)
    (few : image.cores.toNat ≤ 2 ^ 24) (refers : image.Refers base) :
    Fails (acquire image.connection (transport image) capturedAt) := by
  refine ((gives_pipelineIds wellFormed).mapError _).bind_fails ((gives_pipelines wellFormed).bind_fails ?_)
  refine (gives_schedules wellFormed few).bind_fails (((gives_gateways wellFormed).mapError _).bind_fails ?_)
  exact (fails_instances wellFormed complete refers).bind _

/-- A snapshot of a complete image is acquired exactly when nothing stands in the place of the base firmware and
the number of every core fits into an extended id. -/
theorem gives_acquire_iff (wellFormed : image.WellFormed) (complete : image.Complete) {topology : Topology}
    (linked : (image.objects capturedAt).computeLinks = .ok topology) :
    Gives (acquire image.connection (transport image) capturedAt) topology ↔
      ¬ image.Refers base ∧ image.cores.toNat ≤ 2 ^ 24 := by
  constructor
  · intro gives
    have few : image.cores.toNat ≤ 2 ^ 24 := by
      by_contra many
      exact (fails_acquire_of_cores wellFormed (Nat.lt_of_not_le many)).not_gives topology gives
    exact ⟨fun refers => (fails_acquire_of_base wellFormed complete few refers).not_gives topology gives, few⟩
  · rintro ⟨elsewhere, few⟩
    exact gives_acquire wellFormed complete few elsewhere linked

/-- Whatever was written before, the program reads back what the image holds: the limits, every list, every pipeline,
the memory, the schedulers of every core whose number fits into an extended id, and every instance but one in the
place of the base firmware. -/
theorem image_read_back (wellFormed : image.WellFormed) :
    Gives (establish (transport image)) image.connection ∧
    Gives (moduleEntries image.connection (transport image)) image.modules ∧
    Gives (pipelineIds image.connection (transport image)) (image.pipelines.map (·.id)) ∧
    Gives (gateways image.connection (transport image)) image.gateways ∧
    Gives (measurements image.connection (transport image)) image.measurements ∧
    Gives (Connection.memoryState (transport image)) image.memoryState ∧
    (∀ pipeline ∈ image.pipelines, Gives (pipelineProps (transport image) pipeline.id) pipeline) ∧
    (∀ (core : UInt32) (schedule : CoreSchedule), image.schedules[core.toNat]? = some schedule →
      (Gives (coreSchedule (transport image) core) schedule ↔ core.toNat < 2 ^ 24)) ∧
    (∀ id props, image.instances.find? id = some props →
      (Gives (instanceProps (transport image) id) props ↔ id ≠ base)) ∧
    (image.Complete → ∀ capturedAt, ∃ topology,
      (image.objects capturedAt).computeLinks = .ok topology ∧ image.Shows topology ∧
      (Gives (acquire image.connection (transport image) capturedAt) topology ↔
        ¬ image.Refers base ∧ image.cores.toNat ≤ 2 ^ 24)) := by
  refine ⟨gives_establish, gives_moduleEntries wellFormed, gives_pipelineIds wellFormed, gives_gateways wellFormed,
    gives_measurements wellFormed, gives_memoryState wellFormed, fun pipeline => gives_pipelineProps wellFormed,
    ?cores, ?instances, ?snapshot⟩
  case cores =>
    intro core schedule listed
    refine ⟨fun gives => ?_, fun range => gives_coreSchedule wellFormed range listed⟩
    by_contra large
    exact (fails_coreSchedule (Nat.le_of_not_lt large)).not_gives schedule gives
  case instances =>
    intro id props found
    refine ⟨?_, gives_instanceProps wellFormed found⟩
    rintro gives rfl
    exact fails_baseProps.not_gives props gives
  case snapshot =>
    intro complete capturedAt
    obtain ⟨topology, linked, shows⟩ := Image.exists_computeLinks complete capturedAt
    exact ⟨topology, linked, shows, gives_acquire_iff wellFormed complete linked⟩

/-- The demo board without its playback pipeline and its tasks, the only ones that refer to the first copier. -/
def captureOnly : Image := { Image.demo with pipelines := Image.demo.pipelines.drop 1, schedules := [⟨[]⟩] }

theorem captureOnly_read_back :
    captureOnly.WellFormed ∧ captureOnly.Complete ∧
      Gives (establish (transport captureOnly)) captureOnly.connection ∧
      ∀ capturedAt, ∃ topology, captureOnly.Shows topology ∧
        Gives (acquire captureOnly.connection (transport captureOnly) capturedAt) topology := by
  have wellFormed : captureOnly.WellFormed := by decide +kernel
  have complete : captureOnly.Complete := by decide +kernel
  have elsewhere : ¬ captureOnly.Refers base := by decide +kernel
  obtain ⟨established, -, -, -, -, -, -, -, -, acquired⟩ := image_read_back wellFormed
  refine ⟨wellFormed, complete, established, fun capturedAt => ?_⟩
  obtain ⟨topology, -, shows, acquired⟩ := acquired complete capturedAt
  exact ⟨topology, shows, acquired.mpr ⟨elsewhere, by decide⟩⟩

/-- On the demo board the first copier stands in the place of the base firmware: its props cannot be read, and no
topology can be acquired. -/
theorem demo_not_read_back :
    Image.demo.WellFormed ∧ Image.demo.Complete ∧
      (∃ props, Image.demo.instances.find? base = some props ∧
        ¬ Gives (instanceProps (transport Image.demo) base) props) ∧
      ∀ capturedAt topology, ¬ Gives (acquire Image.demo.connection (transport Image.demo) capturedAt) topology := by
  have wellFormed : Image.demo.WellFormed := by decide +kernel
  have complete : Image.demo.Complete := by decide +kernel
  have refers : Image.demo.Refers base := by decide +kernel
  obtain ⟨props, found⟩ := complete.covers refers
  exact ⟨wellFormed, complete, ⟨props, found, fails_baseProps.not_gives props⟩,
    fun _ => (fails_acquire_of_base wellFormed complete (by decide) refers).not_gives⟩

end Simulation

end DspInspector

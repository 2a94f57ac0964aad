import DspInspector.Proofs.Graph.Fifo
import Mathlib.Data.List.Forall2
import Mathlib.Data.List.Perm.Subperm

/-!
# What link resolution finds

`InstanceMap.resolve` succeeds when every instance of every pipeline is known, and then it serves each
queue in order twice: first between neighbours in a pipeline, then between all pins that are left
(`resolve_eq_ok_iff`). No pin is lost or linked twice, every queue gets as many links as its pins
allow, and the order of the links is fixed.
-/

namespace DspInspector

/-- The pins on one side of an instance that may be linked: those on a queue, save pin 0 where a valid
gateway takes its place. -/
def InstanceProps.candidates (props : InstanceProps) (id : InstanceId) (direction : Direction) :
    List Endpoint :=
  let (pins, gateway) := props.side direction
  (pins.zipIdx.filter fun (pin, place) =>
      pin.queueId != Pin.noQueue && !(gateway.isValid && place == 0)).map
    fun (pin, place) => ⟨id, direction, UInt32.ofNat place, pin.queueId⟩

theorem InstanceProps.endpoints_eq (props : InstanceProps) (id : InstanceId) (direction : Direction) :
    props.endpoints id direction = props.candidates id direction := by
  unfold endpoints candidates
  obtain ⟨pins, gateway⟩ := props.side direction
  dsimp only
  congr 1
  cases valid : gateway.isValid with
  | false => simp [Pin.isConnected]
  | true =>
    cases pins with
    | nil => rfl
    | cons pin pins =>
      have later : ∀ entry ∈ pins.zipIdx 1, (entry.2 == 0) = false := by
        intro entry member
        have := List.le_snd_of_mem_zipIdx member
        exact beq_false_of_ne (by omega)
      simp only [List.zipIdx_cons, ↓reduceIte, List.drop_succ_cons, List.drop_zero]
      rw [List.filter_cons_of_neg (by simp)]
      exact List.filter_congr fun entry member => by simp [Pin.isConnected, later entry member]

/-- A sequence of two fallible steps succeeds when both do. -/
private theorem bind_eq_ok_iff {ε α β : Type} {first : Except ε α} {second : α → Except ε β} {value : β} :
    (first >>= second) = .ok value ↔ ∃ between, first = .ok between ∧ second between = .ok value := by
  cases first <;> simp [bind, Except.bind]

namespace InstanceMap

open Matching

variable (instances : InstanceMap)

/-- The pins on one side of an instance that may be linked; an unknown instance has none. -/
def candidates (direction : Direction) (id : InstanceId) : List Endpoint :=
  match instances.find? id with
  | some props => props.candidates id direction
  | none => []

/-- Each instance of a pipeline but the last, with the one after it. -/
def neighbours (ids : List InstanceId) : List (InstanceId × InstanceId) := ids.zip ids.tail

/-- The pins that are linked inside a pipeline. -/
def innerPairs (ids : List InstanceId) : List (Endpoint × Endpoint) :=
  (neighbours ids).flatMap fun (source, target) =>
    fifo (instances.candidates .output source) (instances.candidates .input target)

/-- The outputs that neighbours leave. -/
def innerOutputs (ids : List InstanceId) : List Endpoint :=
  (neighbours ids).flatMap fun (source, target) =>
    surplus (instances.candidates .output source) (instances.candidates .input target)

/-- The inputs that neighbours leave. -/
def innerInputs (ids : List InstanceId) : List Endpoint :=
  (neighbours ids).flatMap fun (source, target) =>
    surplus (instances.candidates .input target) (instances.candidates .output source)

/-- The outputs a pipeline leaves: those of its last instance, then those its neighbours leave. -/
def spareOutputs (ids : List InstanceId) : List Endpoint :=
  ids.getLast?.toList.flatMap (instances.candidates .output) ++ instances.innerOutputs ids

/-- The inputs a pipeline leaves: those of its first instance, then those its neighbours leave. -/
def spareInputs (ids : List InstanceId) : List Endpoint :=
  ids.head?.toList.flatMap (instances.candidates .input) ++ instances.innerInputs ids

/-- The outputs left by all pipelines. -/
def allSpareOutputs (pipelines : List Pipeline) : List Endpoint :=
  pipelines.flatMap fun pipeline => instances.spareOutputs pipeline.instances

/-- The inputs left by all pipelines. -/
def allSpareInputs (pipelines : List Pipeline) : List Endpoint :=
  pipelines.flatMap fun pipeline => instances.spareInputs pipeline.instances

/-- The pins that are linked between pipelines. -/
def boundaryPairs (pipelines : List Pipeline) : List (Endpoint × Endpoint) :=
  fifo (instances.allSpareOutputs pipelines) (instances.allSpareInputs pipelines)

/-- All pins that are linked, pipeline by pipeline and then between them. -/
def linkedPairs (pipelines : List Pipeline) : List (Endpoint × Endpoint) :=
  (pipelines.flatMap fun pipeline => instances.innerPairs pipeline.instances) ++
    instances.boundaryPairs pipelines

/-- All pins without a peer, outputs first. -/
def freePins (pipelines : List Pipeline) : List Endpoint :=
  surplus (instances.allSpareOutputs pipelines) (instances.allSpareInputs pipelines) ++
    surplus (instances.allSpareInputs pipelines) (instances.allSpareOutputs pipelines)

variable {instances}

/-! ## Resolution serves every queue in order -/

private theorem endpoints_eq_ok_iff {id : InstanceId} {direction : Direction} {pins : List Endpoint} :
    endpoints instances id direction = .ok pins ↔
      instances.contains id ∧ pins = instances.candidates direction id := by
  unfold endpoints props OrderedMap.contains candidates
  cases instances.find? id with
  | none => simp [bind, Except.bind]
  | some props => simp [bind, Except.bind, pure, Except.pure, InstanceProps.endpoints_eq, eq_comm]

private theorem matchPair_eq_ok_iff {source target : InstanceId} {found : Matching} :
    matchPair instances source target = .ok found ↔
      (instances.contains source ∧ instances.contains target) ∧
      found = firstFit (instances.candidates .output source) (instances.candidates .input target) := by
  simp only [matchPair, bind_eq_ok_iff, endpoints_eq_ok_iff]
  constructor
  · rintro ⟨_, ⟨knowsSource, rfl⟩, _, ⟨knowsTarget, rfl⟩, ⟨⟩⟩
    exact ⟨⟨knowsSource, knowsTarget⟩, rfl⟩
  · rintro ⟨⟨knowsSource, knowsTarget⟩, rfl⟩
    exact ⟨_, ⟨knowsSource, rfl⟩, _, ⟨knowsTarget, rfl⟩, rfl⟩

private theorem matchPairs_eq_ok_iff : ∀ (ids : List InstanceId) {found : Matching},
    matchPairs instances ids = .ok found ↔
      (∀ pair ∈ neighbours ids, instances.contains pair.1 ∧ instances.contains pair.2) ∧
      found = ⟨(instances.innerPairs ids).map linkOf, instances.innerOutputs ids, instances.innerInputs ids⟩
  | [], _ => ⟨by rintro ⟨⟩; exact ⟨nofun, rfl⟩, by rintro ⟨-, rfl⟩; rfl⟩
  | [_], _ => ⟨by rintro ⟨⟩; exact ⟨nofun, rfl⟩, by rintro ⟨-, rfl⟩; rfl⟩
  | source :: target :: ids, found => by
    have next : neighbours (source :: target :: ids) = (source, target) :: neighbours (target :: ids) := rfl
    simp only [matchPairs, bind_eq_ok_iff, matchPair_eq_ok_iff, matchPairs_eq_ok_iff (target :: ids),
      next, List.forall_mem_cons]
    constructor
    · rintro ⟨_, ⟨known, rfl⟩, _, ⟨others, rfl⟩, ⟨⟩⟩
      refine ⟨⟨known, others⟩, ?_⟩
      simp [Matching.append, firstFit_eq, innerPairs, innerOutputs, innerInputs, next]
    · rintro ⟨⟨known, others⟩, rfl⟩
      refine ⟨_, ⟨known, rfl⟩, _, ⟨others, rfl⟩, ?_⟩
      simp [Matching.append, firstFit_eq, innerPairs, innerOutputs, innerInputs, next, pure, Except.pure]

/-- The first instance of a pipeline and the second ones of its neighbours are all its instances. -/
theorem head_append_neighbours (ids : List InstanceId) :
    ids.head?.toList ++ (neighbours ids).map Prod.snd = ids := by
  cases ids with
  | nil => rfl
  | cons id ids => simp [neighbours, List.map_snd_zip]

/-- The first ones of the neighbours in a pipeline and its last instance are all its instances. -/
theorem neighbours_append_last : ∀ ids : List InstanceId,
    (neighbours ids).map Prod.fst ++ ids.getLast?.toList = ids
  | [] => rfl
  | [_] => rfl
  | id :: next :: ids => by
    have later := neighbours_append_last (next :: ids)
    simpa [neighbours] using later

private theorem matchPipeline_eq_ok_iff {ids : List InstanceId} {found : Matching} :
    matchPipeline instances ids = .ok found ↔
      (∀ id ∈ ids, instances.contains id) ∧
      found = ⟨(instances.innerPairs ids).map linkOf, instances.spareOutputs ids,
        instances.spareInputs ids⟩ := by
  cases ids with
  | nil => exact ⟨by rintro ⟨⟩; exact ⟨nofun, rfl⟩, by rintro ⟨-, rfl⟩; rfl⟩
  | cons first rest =>
    obtain ⟨last, isLast⟩ : ∃ last, (first :: rest).getLast? = some last :=
      ⟨_, List.getLast?_eq_some_getLast (by simp)⟩
    have known : (∀ id ∈ first :: rest, instances.contains id) ↔ instances.contains first ∧
        instances.contains last ∧
        ∀ pair ∈ neighbours (first :: rest), instances.contains pair.1 ∧ instances.contains pair.2 := by
      constructor
      · intro all
        refine ⟨all first (by simp), all last (List.mem_of_getLast? isLast), ?_⟩
        rintro ⟨source, target⟩ adjacent
        obtain ⟨isSource, isTarget⟩ := List.of_mem_zip adjacent
        exact ⟨all source isSource, all target (List.mem_of_mem_tail isTarget)⟩
      · rintro ⟨-, knowsLast, others⟩ id member
        rw [← neighbours_append_last (first :: rest), isLast] at member
        rcases List.mem_append.mp member with inside | atEnd
        · obtain ⟨pair, adjacent, rfl⟩ := List.mem_map.mp inside
          exact (others pair adjacent).1
        · obtain rfl : id = last := by simpa using atEnd
          exact knowsLast
    simp only [matchPipeline, List.head?_cons, isLast, bind_eq_ok_iff, endpoints_eq_ok_iff,
      matchPairs_eq_ok_iff, known]
    constructor
    · rintro ⟨_, ⟨knowsFirst, rfl⟩, _, ⟨knowsLast, rfl⟩, _, ⟨others, rfl⟩, ⟨⟩⟩
      refine ⟨⟨knowsFirst, knowsLast, others⟩, ?_⟩
      simp [Matching.append, spareOutputs, spareInputs, isLast]
    · rintro ⟨⟨knowsFirst, knowsLast, others⟩, rfl⟩
      refine ⟨_, ⟨knowsFirst, rfl⟩, _, ⟨knowsLast, rfl⟩, _, ⟨others, rfl⟩, ?_⟩
      simp [Matching.append, spareOutputs, spareInputs, isLast, pure, Except.pure]

private theorem matchPipelines_eq_ok_iff : ∀ (pipelines : List Pipeline) {found : Matching},
    matchPipelines instances pipelines = .ok found ↔
      (∀ pipeline ∈ pipelines, ∀ id ∈ pipeline.instances, instances.contains id) ∧
      found = ⟨(pipelines.flatMap fun pipeline => instances.innerPairs pipeline.instances).map linkOf,
        instances.allSpareOutputs pipelines, instances.allSpareInputs pipelines⟩
  | [], _ => ⟨by rintro ⟨⟩; exact ⟨nofun, rfl⟩, by rintro ⟨-, rfl⟩; rfl⟩
  | pipeline :: pipelines, found => by
    simp only [matchPipelines, bind_eq_ok_iff, matchPipeline_eq_ok_iff,
      matchPipelines_eq_ok_iff pipelines, List.forall_mem_cons]
    constructor
    · rintro ⟨_, ⟨known, rfl⟩, _, ⟨others, rfl⟩, ⟨⟩⟩
      refine ⟨⟨known, others⟩, ?_⟩
      simp [Matching.append, allSpareOutputs, allSpareInputs]
    · rintro ⟨⟨known, others⟩, rfl⟩
      refine ⟨_, ⟨known, rfl⟩, _, ⟨others, rfl⟩, ?_⟩
      simp [Matching.append, allSpareOutputs, allSpareInputs, pure, Except.pure]

/-- Resolution succeeds exactly when all instances of the pipelines are known. Its links are then those
of the linked pairs, and what is left are the free pins. -/
theorem resolve_eq_ok_iff {pipelines : List Pipeline} {resolution : Resolution} :
    instances.resolve pipelines = .ok resolution ↔
      (∀ pipeline ∈ pipelines, ∀ id ∈ pipeline.instances, instances.contains id) ∧
      resolution = ⟨(instances.linkedPairs pipelines).map linkOf, instances.freePins pipelines⟩ := by
  simp only [resolve, bind_eq_ok_iff, matchPipelines_eq_ok_iff]
  constructor
  · rintro ⟨_, ⟨known, rfl⟩, ⟨⟩⟩
    refine ⟨known, ?_⟩
    simp [firstFit_eq, linkedPairs, boundaryPairs, freePins]
  · rintro ⟨known, rfl⟩
    refine ⟨_, ⟨known, rfl⟩, ?_⟩
    simp [firstFit_eq, linkedPairs, boundaryPairs, freePins, pure, Except.pure]

/-- The links stand pipeline by pipeline and neighbours by neighbours, those between pipelines after
them. Each time the `k`-th output on a queue is linked to the `k`-th input on it, in the order of the
output pins. Between pipelines the pins count in the order in which they were left: pipeline by
pipeline, those at its ends before those that its neighbours left. -/
theorem resolve_links_in_order {pipelines : List Pipeline} {resolution : Resolution}
    (resolved : instances.resolve pipelines = .ok resolution) :
    resolution.links =
      (pipelines.flatMap fun pipeline => (neighbours pipeline.instances).flatMap fun (source, target) =>
        (fifo (instances.candidates .output source) (instances.candidates .input target)).map linkOf) ++
      (fifo (instances.allSpareOutputs pipelines) (instances.allSpareInputs pipelines)).map linkOf := by
  obtain ⟨-, rfl⟩ := resolve_eq_ok_iff.mp resolved
  simp only [linkedPairs, boundaryPairs, innerPairs, List.map_append, List.map_flatMap]

/-- Three instances: the first two share queue 5, on which the first has one output too many; the third
takes what they leave, but its pin 0 belongs to a gateway. -/
def sampleInstances : InstanceMap :=
  let pins := List.map (Pin.pcm AudioFormat.standard)
  let source := InstanceProps.bare ⟨1, 0⟩
  let filter := InstanceProps.bare ⟨2, 0⟩
  let sink := InstanceProps.bare ⟨3, 0⟩
  .ofList [
    (source.id, { source with outputPins := pins [5, 6, 5] }),
    (filter.id, { filter with inputPins := pins [5, Pin.noQueue], outputPins := pins [Pin.noQueue, 7] }),
    (sink.id, { sink with inputPins := pins [7, 5, 6, 9], inputGateway := ⟨0⟩ })]

/-- The first two of the three instances in one pipeline, the third in another one. -/
def samplePipelines : List Pipeline :=
  [.bare 1 0 [⟨1, 0⟩, ⟨2, 0⟩], .bare 2 0 [⟨3, 0⟩]]

/-- What resolution finds there. -/
def sampleResolution : Resolution where
  links := [⟨⟨1, 0⟩, 0, ⟨2, 0⟩, 0⟩, ⟨⟨1, 0⟩, 1, ⟨3, 0⟩, 2⟩, ⟨⟨1, 0⟩, 2, ⟨3, 0⟩, 1⟩]
  unresolved := [⟨⟨2, 0⟩, .output, 1, 7⟩, ⟨⟨3, 0⟩, .input, 3, 9⟩]

theorem sample_resolved : sampleInstances.resolve samplePipelines = .ok sampleResolution := by rfl

theorem sample_links_in_order :
    sampleInstances.resolve samplePipelines = .ok sampleResolution ∧
      sampleResolution.links =
        (samplePipelines.flatMap fun pipeline =>
          (neighbours pipeline.instances).flatMap fun (source, target) =>
            (fifo (sampleInstances.candidates .output source)
              (sampleInstances.candidates .input target)).map linkOf) ++
        (fifo (sampleInstances.allSpareOutputs samplePipelines)
          (sampleInstances.allSpareInputs samplePipelines)).map linkOf :=
  ⟨sample_resolved, resolve_links_in_order sample_resolved⟩

end InstanceMap

end DspInspector

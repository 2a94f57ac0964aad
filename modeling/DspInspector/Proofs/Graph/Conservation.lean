import DspInspector.Proofs.Graph.Resolution
import DspInspector.Proofs.Wire.Reading
import Mathlib.Data.List.Nodup

/-!
# No pin is lost

Every pin that may be linked ends up in one link or among the pins without a peer, as often as its
instance stands in a pipeline (`resolve_conserves_pins`). Both ends of a link are on one queue, and
each queue has as many links as the scarcer side has pins (`resolve_links_maximal`).
-/

namespace DspInspector

/-- A pin as a link names it, without its queue. -/
structure PinName where
  owner : InstanceId
  direction : Direction
  index : UInt32
  deriving DecidableEq

/-- The name of a pin. -/
def Endpoint.name (pin : Endpoint) : PinName := ⟨pin.owner, pin.direction, pin.index⟩

/-- The pins a link connects. -/
def Link.ends (link : Link) : List PinName :=
  [⟨link.source, .output, link.sourcePin⟩, ⟨link.target, .input, link.targetPin⟩]

namespace InstanceMap

open Matching

variable (instances : InstanceMap)

/-- All pins that may be linked, once for every place where their instance stands in a pipeline. -/
def candidatePins (pipelines : List Pipeline) : List Endpoint :=
  pipelines.flatMap fun pipeline => pipeline.instances.flatMap fun id =>
    instances.candidates .output id ++ instances.candidates .input id

/-- The pins on one side that may be linked. -/
def candidatesOn (direction : Direction) (pipelines : List Pipeline) : List Endpoint :=
  pipelines.flatMap fun pipeline => pipeline.instances.flatMap (instances.candidates direction)

/-- No side of an instance has more pins than there are pin numbers. This holds of all instances that were
read from the firmware (`numbered_of_read`). -/
def Numbered : Prop :=
  ∀ id props, instances.find? id = some props → ∀ direction, (props.side direction).1.length ≤ UInt32.size

/-- A name is that of a pin that may be linked through a queue: the pin exists, is on the queue, and no
gateway takes its place. -/
def Linkable (name : PinName) (queue : UInt32) : Prop :=
  ∃ props place pin, instances.find? name.owner = some props ∧
    (props.side name.direction).1[place]? = some pin ∧ name.index = UInt32.ofNat place ∧
    pin.queueId = queue ∧ queue ≠ Pin.noQueue ∧ ((props.side name.direction).2.isValid → place ≠ 0)

/-- The queue of the pin with a name, looked up by its number. -/
def queueOf (name : PinName) : Option UInt32 := do
  let props ← instances.find? name.owner
  let pin ← (props.side name.direction).1[name.index.toNat]?
  pure pin.queueId

/-! ## Linked pins and free pins are all pins -/

/-- Lists that split item by item split as a whole. -/
private theorem flatMap_split {α : Type} {items : List α} {whole linked spare : α → List Endpoint}
    (each : ∀ item, (whole item).Perm (linked item ++ spare item)) :
    (items.flatMap whole).Perm (items.flatMap linked ++ items.flatMap spare) :=
  (List.Perm.flatMap_left _ fun item _ => each item).trans (List.flatMap_append_perm ..).symm

private theorem outputs_of_pipeline (ids : List InstanceId) :
    (ids.flatMap (instances.candidates .output)).Perm
      ((instances.innerPairs ids).map Prod.fst ++ instances.spareOutputs ids) := by
  have split : ids.flatMap (instances.candidates .output) =
      (neighbours ids).flatMap (fun pair => instances.candidates .output pair.1) ++
        ids.getLast?.toList.flatMap (instances.candidates .output) := by
    conv => lhs; rw [← neighbours_append_last ids]
    rw [List.flatMap_append, List.flatMap_map]
  have served : ((neighbours ids).flatMap fun pair => instances.candidates .output pair.1).Perm
      ((instances.innerPairs ids).map Prod.fst ++ instances.innerOutputs ids) := by
    rw [innerPairs, innerOutputs, List.map_flatMap]
    exact flatMap_split fun pair => outputs_perm _ _
  rw [split, spareOutputs]
  refine (served.append_right _).trans ?_
  rw [List.append_assoc]
  exact List.perm_append_comm.append_left _

private theorem inputs_of_pipeline (ids : List InstanceId) :
    (ids.flatMap (instances.candidates .input)).Perm
      ((instances.innerPairs ids).map Prod.snd ++ instances.spareInputs ids) := by
  have split : ids.flatMap (instances.candidates .input) =
      ids.head?.toList.flatMap (instances.candidates .input) ++
        (neighbours ids).flatMap (fun pair => instances.candidates .input pair.2) := by
    conv => lhs; rw [← head_append_neighbours ids]
    rw [List.flatMap_append, List.flatMap_map]
  have served : ((neighbours ids).flatMap fun pair => instances.candidates .input pair.2).Perm
      ((instances.innerPairs ids).map Prod.snd ++ instances.innerInputs ids) := by
    rw [innerPairs, innerInputs, List.map_flatMap]
    exact flatMap_split fun pair => inputs_perm _ _
  rw [split, spareInputs]
  refine (served.append_left _).trans ?_
  rw [← List.append_assoc, ← List.append_assoc]
  exact List.perm_append_comm.append_right _

private theorem inner_outputs_perm (pipelines : List Pipeline) :
    (instances.candidatesOn .output pipelines).Perm
      ((pipelines.flatMap fun pipeline => instances.innerPairs pipeline.instances).map Prod.fst ++
        instances.allSpareOutputs pipelines) := by
  rw [List.map_flatMap]
  exact flatMap_split fun pipeline => outputs_of_pipeline instances pipeline.instances

private theorem inner_inputs_perm (pipelines : List Pipeline) :
    (instances.candidatesOn .input pipelines).Perm
      ((pipelines.flatMap fun pipeline => instances.innerPairs pipeline.instances).map Prod.snd ++
        instances.allSpareInputs pipelines) := by
  rw [List.map_flatMap]
  exact flatMap_split fun pipeline => inputs_of_pipeline instances pipeline.instances

/-- Every output that may be linked is in one linked pair or free. -/
theorem linked_outputs_perm (pipelines : List Pipeline) :
    (instances.candidatesOn .output pipelines).Perm
      ((instances.linkedPairs pipelines).map Prod.fst ++
        surplus (instances.allSpareOutputs pipelines) (instances.allSpareInputs pipelines)) := by
  refine (inner_outputs_perm instances pipelines).trans ?_
  rw [linkedPairs, List.map_append, List.append_assoc]
  exact (outputs_perm _ _).append_left _

/-- Every input that may be linked is in one linked pair or free. -/
theorem linked_inputs_perm (pipelines : List Pipeline) :
    (instances.candidatesOn .input pipelines).Perm
      ((instances.linkedPairs pipelines).map Prod.snd ++
        surplus (instances.allSpareInputs pipelines) (instances.allSpareOutputs pipelines)) := by
  refine (inner_inputs_perm instances pipelines).trans ?_
  rw [linkedPairs, List.map_append, List.append_assoc]
  exact (inputs_perm _ _).append_left _

private theorem candidatePins_perm (pipelines : List Pipeline) :
    (instances.candidatePins pipelines).Perm
      (instances.candidatesOn .output pipelines ++ instances.candidatesOn .input pipelines) :=
  flatMap_split fun _ => flatMap_split fun _ => .refl _

/-- The pins of all linked pairs, and the free pins. -/
private theorem pins_perm (pipelines : List Pipeline) :
    (instances.candidatePins pipelines).Perm
      (((instances.linkedPairs pipelines).flatMap fun pair => [pair.1, pair.2]) ++
        instances.freePins pipelines) := by
  have ends : ((instances.linkedPairs pipelines).flatMap fun pair => [pair.1, pair.2]).Perm
      ((instances.linkedPairs pipelines).map Prod.fst ++ (instances.linkedPairs pipelines).map Prod.snd) := by
    rw [← List.flatMap_pure_eq_map, ← List.flatMap_pure_eq_map]
    exact flatMap_split fun _ => .refl _
  have all := candidatePins_perm instances pipelines
  have outputs := linked_outputs_perm instances pipelines
  have inputs := linked_inputs_perm instances pipelines
  rw [List.perm_iff_count] at ends all outputs inputs ⊢
  intro pin
  have endsOf := ends pin
  have allOf := all pin
  have outputsOf := outputs pin
  have inputsOf := inputs pin
  simp only [freePins, List.count_append] at endsOf allOf outputsOf inputsOf ⊢
  omega

variable {instances}

/-! ## Where a pin comes from -/

theorem mem_candidates {direction : Direction} {id : InstanceId} {pin : Endpoint} :
    pin ∈ instances.candidates direction id ↔
      ∃ props place entry, instances.find? id = some props ∧
        (props.side direction).1[place]? = some entry ∧ entry.queueId ≠ Pin.noQueue ∧
        ((props.side direction).2.isValid → place ≠ 0) ∧
        pin = ⟨id, direction, UInt32.ofNat place, entry.queueId⟩ := by
  unfold candidates
  cases found : instances.find? id with
  | none => simp
  | some props =>
    simp only [InstanceProps.candidates, List.mem_map, List.mem_filter, Prod.exists,
      List.mem_zipIdx_iff_getElem?]
    constructor
    · rintro ⟨entry, place, ⟨inside, fit⟩, rfl⟩
      refine ⟨props, place, entry, rfl, inside, ?_⟩
      simpa [imp_iff_not_or] using fit
    · rintro ⟨_, place, entry, ⟨⟩, inside, connected, ungated, rfl⟩
      refine ⟨entry, place, ⟨inside, ?_⟩, rfl⟩
      simpa [imp_iff_not_or] using And.intro connected ungated

theorem direction_of_mem_candidatesOn {direction : Direction} {pipelines : List Pipeline} {pin : Endpoint}
    (member : pin ∈ instances.candidatesOn direction pipelines) : pin.direction = direction := by
  simp only [candidatesOn, List.mem_flatMap] at member
  obtain ⟨_, _, _, _, candidate⟩ := member
  obtain ⟨_, _, _, _, _, _, _, rfl⟩ := mem_candidates.mp candidate
  rfl

/-- The output of a linked pair is one of the outputs that may be linked. -/
theorem fst_mem_of_linked {pipelines : List Pipeline} {pair : Endpoint × Endpoint}
    (linked : pair ∈ instances.linkedPairs pipelines) :
    pair.1 ∈ instances.candidatesOn .output pipelines :=
  (linked_outputs_perm instances pipelines).mem_iff.mpr (List.mem_append_left _ (List.mem_map_of_mem linked))

/-- The input of a linked pair is one of the inputs that may be linked. -/
theorem snd_mem_of_linked {pipelines : List Pipeline} {pair : Endpoint × Endpoint}
    (linked : pair ∈ instances.linkedPairs pipelines) :
    pair.2 ∈ instances.candidatesOn .input pipelines :=
  (linked_inputs_perm instances pipelines).mem_iff.mpr (List.mem_append_left _ (List.mem_map_of_mem linked))

theorem output_of_mem_surplus {pipelines : List Pipeline} {pin : Endpoint}
    (free : pin ∈ surplus (instances.allSpareOutputs pipelines) (instances.allSpareInputs pipelines)) :
    pin.direction = .output :=
  direction_of_mem_candidatesOn <|
    (linked_outputs_perm instances pipelines).mem_iff.mpr (List.mem_append_right _ free)

theorem input_of_mem_surplus {pipelines : List Pipeline} {pin : Endpoint}
    (free : pin ∈ surplus (instances.allSpareInputs pipelines) (instances.allSpareOutputs pipelines)) :
    pin.direction = .input :=
  direction_of_mem_candidatesOn <|
    (linked_inputs_perm instances pipelines).mem_iff.mpr (List.mem_append_right _ free)

/-! ## Every pin once -/

/-- A link names the pins it was made of. -/
theorem ends_linkOf {pipelines : List Pipeline} {pair : Endpoint × Endpoint}
    (linked : pair ∈ instances.linkedPairs pipelines) :
    (linkOf pair).ends = [pair.1.name, pair.2.name] := by
  have output := direction_of_mem_candidatesOn (fst_mem_of_linked linked)
  have input := direction_of_mem_candidatesOn (snd_mem_of_linked linked)
  simp [linkOf, Link.between, Link.ends, Endpoint.name, output, input]

private theorem count_ends (name : PinName) (links : List Link) :
    (links.flatMap Link.ends).count name = links.countP fun link => name ∈ link.ends := by
  induction links with
  | nil => rfl
  | cons link links ih =>
    have once : link.ends.Nodup := by simp [Link.ends]
    rw [List.flatMap_cons, List.count_append, ih, List.countP_cons, once.count]
    simp [Nat.add_comm]

/-- An instance that was read has at most as many pins on a side as its count can say. -/
theorem length_side_of_read {bytes rest : List UInt8} {props : InstanceProps}
    (read : (Wire.read : Decoder InstanceProps) bytes = .ok props rest) (direction : Direction) :
    (props.side direction).1.length < UInt32.size := by
  obtain ⟨_, _, read, whole⟩ := Decoder.bind_eq_ok read
  cases whole
  -- eleven words stand in front of the pins
  iterate 11 obtain ⟨_, -, read⟩ := Wire.of_read_pair read
  obtain ⟨_, inputs, read⟩ := Wire.of_read_pair read
  obtain ⟨_, outputs, -⟩ := Wire.of_read_pair read
  cases direction with
  | input => exact Wire.length_lt_of_read inputs
  | output => exact Wire.length_lt_of_read outputs

/-- Where every instance was read, its pins can be told apart by their numbers. -/
theorem numbered_of_read (sent : ∀ id props, instances.find? id = some props →
    ∃ bytes rest, (Wire.read : Decoder InstanceProps) bytes = .ok props rest) : instances.Numbered := by
  intro id props found direction
  obtain ⟨bytes, rest, read⟩ := sent id props found
  exact Nat.le_of_lt (length_side_of_read read direction)

private theorem nodup_names {direction : Direction} {id : InstanceId} (numbered : instances.Numbered) :
    ((instances.candidates direction id).map Endpoint.name).Nodup := by
  unfold candidates
  cases found : instances.find? id with
  | none => simp
  | some props =>
    have few := numbered id props found direction
    simp only [InstanceProps.candidates, List.map_map]
    generalize kept : (props.side direction).1.zipIdx.filter _ = places
    have distinct : (places.map Prod.snd).Nodup := by
      rw [← kept]
      refine List.Nodup.sublist (List.filter_sublist.map _) ?_
      rw [List.zipIdx_map_snd]
      exact List.nodup_range'
    have small : ∀ place ∈ places.map Prod.snd, place < UInt32.size := by
      rintro _ inside
      obtain ⟨entry, member, rfl⟩ := List.mem_map.mp inside
      rw [← kept] at member
      exact Nat.lt_of_lt_of_le (List.snd_lt_of_mem_zipIdx (List.mem_of_mem_filter member)) few
    have named : ((places.map Prod.snd).map fun place =>
        PinName.mk id direction (UInt32.ofNat place)).Nodup := by
      refine distinct.map_on fun a aInside b bInside same => ?_
      have words : UInt32.ofNat a = UInt32.ofNat b := congrArg PinName.index same
      have numbers := congrArg UInt32.toNat words
      rwa [UInt32.toNat_ofNat_of_lt' (small a aInside), UInt32.toNat_ofNat_of_lt' (small b bInside)] at numbers
    simpa [Function.comp_def, Endpoint.name] using named

private theorem of_mem_names {direction : Direction} {id : InstanceId} {name : PinName}
    (member : name ∈ (instances.candidates direction id).map Endpoint.name) :
    name.owner = id ∧ name.direction = direction := by
  obtain ⟨pin, candidate, rfl⟩ := List.mem_map.mp member
  obtain ⟨_, _, _, _, _, _, _, rfl⟩ := mem_candidates.mp candidate
  exact ⟨rfl, rfl⟩

private theorem nodup_candidatePins {pipelines : List Pipeline} (numbered : instances.Numbered)
    (once : (pipelines.flatMap (·.instances)).Nodup) :
    ((instances.candidatePins pipelines).map Endpoint.name).Nodup := by
  have whole : instances.candidatePins pipelines = (pipelines.flatMap (·.instances)).flatMap fun id =>
      instances.candidates .output id ++ instances.candidates .input id := List.flatMap_assoc.symm
  rw [whole, List.map_flatMap, List.nodup_flatMap]
  constructor
  · intro id _
    rw [List.map_append]
    refine (nodup_names numbered).append (nodup_names numbered) ?_
    intro name isOutput isInput
    exact Direction.noConfusion ((of_mem_names isOutput).2.symm.trans (of_mem_names isInput).2)
  · refine once.imp fun {first second} differ => ?_
    intro name inFirst inSecond
    have owner : ∀ {id}, name ∈ (instances.candidates .output id ++
        instances.candidates .input id).map Endpoint.name → name.owner = id := by
      intro id member
      rcases List.mem_append.mp (List.map_append ▸ member) with isOutput | isInput
      · exact (of_mem_names isOutput).1
      · exact (of_mem_names isInput).1
    exact differ ((owner inFirst).symm.trans (owner inSecond))

/-- The links and free pins of a resolution account for every pin that may be linked. -/
structure Conserved (instances : InstanceMap) (pipelines : List Pipeline) (resolution : Resolution) :
    Prop where
  /-- Counted with multiplicity, the ends of the links and the pins without a peer are all pins. -/
  accounted : ((instances.candidatePins pipelines).map Endpoint.name).Perm
    (resolution.links.flatMap Link.ends ++ resolution.unresolved.map Endpoint.name)
  /-- Pins without a peer are reported with the queue they are on. -/
  reported : resolution.unresolved.Subperm (instances.candidatePins pipelines)
  /-- No input without a peer stands in front of an output. -/
  outputsFirst : resolution.unresolved.Pairwise fun earlier later =>
    ¬ (earlier.direction = .input ∧ later.direction = .output)
  /-- Where no instance stands twice, a pin is in one link or once without a peer. Pin numbers are words,
  so this is about sides whose pins they tell apart. -/
  once : (pipelines.flatMap (·.instances)).Nodup → instances.Numbered →
    ∀ pin ∈ instances.candidatePins pipelines,
      ((resolution.links.countP fun link => pin.name ∈ link.ends) = 1 ∧ pin ∉ resolution.unresolved) ∨
      ((resolution.links.countP fun link => pin.name ∈ link.ends) = 0 ∧
        resolution.unresolved.count pin = 1)

/-- Resolution neither loses nor duplicates a pin. -/
theorem resolve_conserves_pins {pipelines : List Pipeline} {resolution : Resolution}
    (resolved : instances.resolve pipelines = .ok resolution) :
    instances.Conserved pipelines resolution := by
  obtain ⟨-, rfl⟩ := resolve_eq_ok_iff.mp resolved
  have pins := pins_perm instances pipelines
  have names : ((instances.candidatePins pipelines).map Endpoint.name).Perm
      (((instances.linkedPairs pipelines).map linkOf).flatMap Link.ends ++
        (instances.freePins pipelines).map Endpoint.name) := by
    refine (pins.map Endpoint.name).trans (.of_eq ?_)
    rw [List.map_append, List.map_flatMap, List.flatMap_map]
    congr 1
    exact List.flatMap_congr fun pair linked => (ends_linkOf linked).symm
  have free : (instances.freePins pipelines).Subperm (instances.candidatePins pipelines) :=
    (List.sublist_append_right _ _).subperm.trans pins.symm.subperm
  refine ⟨names, free, ?_, ?_⟩
  · refine List.pairwise_append.mpr
      ⟨List.pairwise_of_forall_mem_list ?_, List.pairwise_of_forall_mem_list ?_, ?_⟩
    · rintro earlier free _ - ⟨input, -⟩
      exact Direction.noConfusion (input.symm.trans (output_of_mem_surplus free))
    · rintro _ - later free ⟨-, output⟩
      exact Direction.noConfusion (output.symm.trans (input_of_mem_surplus free))
    · rintro earlier free _ - ⟨input, -⟩
      exact Direction.noConfusion (input.symm.trans (output_of_mem_surplus free))
  · intro once numbered pin member
    dsimp only
    have distinct := nodup_candidatePins numbered once
    have total := List.perm_iff_count.mp names pin.name
    rw [List.count_append, count_ends, distinct.count, if_pos (List.mem_map_of_mem member)] at total
    by_cases left : pin ∈ instances.freePins pipelines
    · have some : 0 < (instances.freePins pipelines).count pin := List.count_pos_iff.mpr left
      have few : (instances.freePins pipelines).count pin ≤
          ((instances.freePins pipelines).map Endpoint.name).count pin.name := List.count_le_count_map
      right
      omega
    · have none : ((instances.freePins pipelines).map Endpoint.name).count pin.name = 0 := by
        refine List.count_eq_zero.mpr fun named => left ?_
        obtain ⟨other, isFree, same⟩ := List.mem_map.mp named
        rwa [← List.inj_on_of_nodup_map distinct (free.subset isFree) member same]
      exact .inl ⟨by omega, left⟩

theorem sample_conserves_pins :
    sampleInstances.resolve samplePipelines = .ok sampleResolution ∧
      sampleInstances.Conserved samplePipelines sampleResolution :=
  ⟨sample_resolved, resolve_conserves_pins sample_resolved⟩

/-! ## As many links as possible -/

private theorem queueId_eq_of_inner {pipelines : List Pipeline} {pair : Endpoint × Endpoint}
    (inner : pair ∈ pipelines.flatMap fun pipeline => instances.innerPairs pipeline.instances) :
    pair.1.queueId = pair.2.queueId := by
  simp only [innerPairs, List.mem_flatMap] at inner
  obtain ⟨_, _, _, _, served⟩ := inner
  exact (of_mem_fifo served).2.2

theorem queueId_eq_of_linked {pipelines : List Pipeline} {pair : Endpoint × Endpoint}
    (linked : pair ∈ instances.linkedPairs pipelines) : pair.1.queueId = pair.2.queueId := by
  rcases List.mem_append.mp linked with inner | between
  · exact queueId_eq_of_inner inner
  · exact (of_mem_fifo between).2.2

theorem linkable_of_mem {direction : Direction} {pipelines : List Pipeline} {pin : Endpoint}
    (member : pin ∈ instances.candidatesOn direction pipelines) :
    instances.Linkable pin.name pin.queueId := by
  simp only [candidatesOn, List.mem_flatMap] at member
  obtain ⟨_, _, _, _, candidate⟩ := member
  obtain ⟨props, place, entry, found, inside, connected, ungated, rfl⟩ := mem_candidates.mp candidate
  exact ⟨props, place, entry, found, inside, rfl, rfl, connected, ungated⟩

theorem queueOf_of_linkable {name : PinName} {queue : UInt32} (numbered : instances.Numbered)
    (linkable : instances.Linkable name queue) : instances.queueOf name = some queue := by
  obtain ⟨props, place, pin, found, inside, number, onQueue, -, -⟩ := linkable
  obtain ⟨within, -⟩ := List.getElem?_eq_some_iff.mp inside
  have few := numbered name.owner props found name.direction
  have position : name.index.toNat = place := by
    rw [number]
    exact UInt32.toNat_ofNat_of_lt' (Nat.lt_of_lt_of_le within few)
  simp [queueOf, found, position, inside, onQueue]

/-- Of all linked pairs, as many are on a queue as the scarcer side has pins there. -/
theorem countP_linkedPairs (queue : UInt32) (pipelines : List Pipeline) :
    (instances.linkedPairs pipelines).countP (·.1.queueId == queue) =
      min (countOn queue (instances.candidatesOn .output pipelines))
        (countOn queue (instances.candidatesOn .input pipelines)) := by
  have inner : ((pipelines.flatMap fun pipeline => instances.innerPairs pipeline.instances).countP
      (·.2.queueId == queue)) =
      (pipelines.flatMap fun pipeline => instances.innerPairs pipeline.instances).countP
        (·.1.queueId == queue) :=
    List.countP_congr fun pair member => by rw [queueId_eq_of_inner member]
  rw [countOn_perm (inner_outputs_perm instances pipelines),
    countOn_perm (inner_inputs_perm instances pipelines), countOn_append, countOn_append, countOn_map, countOn_map, inner, linkedPairs, List.countP_append,
    boundaryPairs, countP_fifo]
  omega

theorem countP_of_forall₂ {links : List Link} {queues : List UInt32} (queue : UInt32)
    (onQueues : List.Forall₂ (fun link own => ∀ name ∈ link.ends, instances.queueOf name = some own)
      links queues) :
    (links.countP fun link => ∀ name ∈ link.ends, instances.queueOf name = some queue) =
      queues.count queue := by
  induction onQueues with
  | nil => rfl
  | @cons link own links queues first _ ih =>
    have same : (∀ name ∈ link.ends, instances.queueOf name = some queue) ↔ own = queue := by
      simp only [Link.ends, List.forall_mem_cons] at first ⊢
      rw [first.1, first.2.1]
      simp
    rw [List.countP_cons, List.count_cons, ih]
    simp [same]

/-- The links of the linked pairs are on the queues of these pairs. -/
theorem linkable_linkedPairs (instances : InstanceMap) (pipelines : List Pipeline) :
    List.Forall₂ (fun link queue => ∀ name ∈ link.ends, instances.Linkable name queue)
      ((instances.linkedPairs pipelines).map linkOf)
      ((instances.linkedPairs pipelines).map fun pair => pair.1.queueId) := by
  rw [List.forall₂_map_left_iff, List.forall₂_map_right_iff, List.forall₂_same]
  intro pair linked
  rw [ends_linkOf linked]
  have output := linkable_of_mem (fst_mem_of_linked linked)
  have input := linkable_of_mem (snd_mem_of_linked linked)
  rw [← queueId_eq_of_linked linked] at input
  simp [output, input]

theorem count_linkedPairs (instances : InstanceMap) (pipelines : List Pipeline) (queue : UInt32) :
    ((instances.linkedPairs pipelines).map fun pair => pair.1.queueId).count queue =
      min (countOn queue (instances.candidatesOn .output pipelines))
        (countOn queue (instances.candidatesOn .input pipelines)) := by
  rw [← countP_linkedPairs, List.count, List.countP_map]
  rfl

/-- The links of a resolution are right, and as many as there can be. -/
structure Maximal (instances : InstanceMap) (pipelines : List Pipeline) (resolution : Resolution) :
    Prop where
  /-- Each link is on a queue through which both its pins may be linked, and each queue has as many links
  as the scarcer of its two sides has pins. -/
  queues : ∃ queues : List UInt32,
    List.Forall₂ (fun link queue => ∀ name ∈ link.ends, instances.Linkable name queue)
      resolution.links queues ∧
    ∀ queue, queues.count queue =
      min (countOn queue (instances.candidatesOn .output pipelines))
        (countOn queue (instances.candidatesOn .input pipelines))
  /-- Where pin numbers tell the pins of a side apart, the links on a queue are those whose pins are found
  on it. -/
  counted : instances.Numbered → ∀ queue,
    (resolution.links.countP fun link => ∀ name ∈ link.ends, instances.queueOf name = some queue) =
      min (countOn queue (instances.candidatesOn .output pipelines))
        (countOn queue (instances.candidatesOn .input pipelines))
  /-- An output and an input without a peer are never on one queue. -/
  apart : ∀ output ∈ resolution.unresolved, ∀ input ∈ resolution.unresolved,
    output.direction = .output → input.direction = .input → output.queueId ≠ input.queueId

/-- Resolution links only what belongs together, and as much of it as possible. -/
theorem resolve_links_maximal {pipelines : List Pipeline} {resolution : Resolution}
    (resolved : instances.resolve pipelines = .ok resolution) :
    instances.Maximal pipelines resolution := by
  obtain ⟨-, rfl⟩ := resolve_eq_ok_iff.mp resolved
  have linkable := linkable_linkedPairs instances pipelines
  have counts := count_linkedPairs instances pipelines
  refine ⟨⟨_, linkable, counts⟩, ?_, ?_⟩
  · intro numbered queue
    rw [← counts]
    exact countP_of_forall₂ queue (linkable.imp fun link own all name member =>
      queueOf_of_linkable numbered (all name member))
  · intro output isFree input isFree' isOutput isInput
    rcases List.mem_append.mp isFree with left | wrong
    · rcases List.mem_append.mp isFree' with wrong | more
      · exact Direction.noConfusion (isInput.symm.trans (output_of_mem_surplus wrong))
      · exact queueId_ne_of_mem_surplus left more
    · exact Direction.noConfusion (isOutput.symm.trans (input_of_mem_surplus wrong))

theorem sample_links_maximal :
    sampleInstances.resolve samplePipelines = .ok sampleResolution ∧
      sampleInstances.Maximal samplePipelines sampleResolution :=
  ⟨sample_resolved, resolve_links_maximal sample_resolved⟩

end InstanceMap

end DspInspector

import DspInspector.Proofs.Graph.Relinking

/-!
# The instances at a gateway

The peers of a gateway are looked up by its id alone. For a gateway this is what is wanted: its peers are the instances
that have it on one of their sides, in order and once each, and it does not matter how often or in which order gateways
are listed (`Topology.peers_relisted`). But the list comes from the firmware, and nobody checks it for the id that is
set aside for "no gateway": if this one is listed, every instance with a free side is its peer. So the peers are exact
if the id is not listed or no side is free, and only then (`Topology.peersExact_iff`).
-/

namespace DspInspector

/-- The instance has a gateway on one of its sides, and it is this one. -/
def InstanceProps.StandsAt (props : InstanceProps) (gateway : ConnectorId) : Prop :=
  gateway.isValid = true ∧ (props.inputGateway = gateway ∨ props.outputGateway = gateway)

/-- The instance has no gateway on one of its sides. -/
def InstanceProps.HasFreeSide (props : InstanceProps) : Prop :=
  props.inputGateway = .absent ∨ props.outputGateway = .absent

namespace InstanceMap

/-- Every instance is found under the id it names itself. -/
def OwnIds (instances : InstanceMap) : Prop := ∀ entry ∈ instances.entries, entry.2.id = entry.1

/-- The ids of exactly the instances at the gateway, in ascending order. -/
structure PeersOf (instances : InstanceMap) (gateway : ConnectorId) (ids : List InstanceId) : Prop where
  members : ∀ id, id ∈ ids ↔ ∃ props ∈ instances.values, props.id = id ∧ props.StandsAt gateway
  ascending : instances.OwnIds → ids.Pairwise fun a b => Ranked.rank a < Ranked.rank b

end InstanceMap

namespace Topology

/-- Listed gateways have an entry each, with the instances at them, and nothing else has one. -/
structure PeersExact (topology : Topology) : Prop where
  keys : ∀ raw, raw ∈ topology.gatewayPeers.keys ↔ ∃ gateway ∈ topology.gateways, gateway.id.raw = raw
  peers : ∀ gateway ∈ topology.gateways, ∃ ids,
    topology.gatewayPeers.find? gateway.id.raw = some ids ∧ topology.instances.PeersOf gateway.id ids

variable {capturedAt : Timestamp} {instances : InstanceMap} {gateways : List Gateway} {topology linked : Topology}

/-- A topology that is put together has each instance under its own id. -/
theorem ownIds_of (capturedAt : Timestamp) (list : List InstanceProps) (gateways : List Gateway)
    (pipelines : List Pipeline) (schedules : List CoreSchedule) :
    (of capturedAt list gateways pipelines schedules).instances.OwnIds := by
  rintro ⟨id, props⟩ stored
  obtain ⟨_, _, same⟩ := List.mem_map.mp (OrderedMap.mem_of_find?_ofList (OrderedMap.find?_eq_some_iff.mpr stored))
  cases same
  rfl

/-! ## The instances with an id on one side -/

theorem mem_attached {gateway : ConnectorId} {id : InstanceId} : id ∈ attached instances gateway ↔
    ∃ props ∈ instances.values, props.id = id ∧ (props.inputGateway = gateway ∨ props.outputGateway = gateway) := by
  simp only [attached, List.mem_map, List.mem_filter, Bool.or_eq_true, beq_iff_eq]
  constructor
  · rintro ⟨props, ⟨listed, side⟩, named⟩
    exact ⟨props, listed, named, side⟩
  · rintro ⟨props, listed, named, side⟩
    exact ⟨props, ⟨listed, side⟩, named⟩

theorem ascending_attached (own : instances.OwnIds) (gateway : ConnectorId) :
    (attached instances gateway).Pairwise fun a b => Ranked.rank a < Ranked.rank b := by
  -- The ids of the values are the keys, and leaving some out does not change their order.
  have ids : instances.values.map (·.id) = instances.keys := by
    rw [OrderedMap.values, OrderedMap.keys, List.map_map]
    exact List.map_congr_left own
  have within : (attached instances gateway).Sublist instances.keys := by
    rw [← ids]
    exact List.filter_sublist.map _
  exact instances.ascending_keys.sublist within

theorem peersOf_attached {gateway : ConnectorId} (valid : gateway.isValid = true) :
    instances.PeersOf gateway (attached instances gateway) where
  members id := by simp only [mem_attached, InstanceProps.StandsAt, valid, true_and]
  ascending own := ascending_attached own gateway

/-- Nothing stands at no gateway. -/
theorem peersOf_absent_iff {ids : List InstanceId} : instances.PeersOf .absent ids ↔ ids = [] := by
  have nobody : ∀ props : InstanceProps, ¬ props.StandsAt .absent := fun _ stands => absurd stands.1 (by decide)
  constructor
  · intro exactly
    refine List.eq_nil_iff_forall_not_mem.mpr fun id member => ?_
    obtain ⟨props, -, -, stands⟩ := (exactly.members id).mp member
    exact nobody props stands
  · rintro rfl
    refine ⟨fun id => iff_of_false List.not_mem_nil ?_, fun _ => .nil⟩
    rintro ⟨props, -, -, stands⟩
    exact nobody props stands

theorem attached_absent_eq_nil_iff :
    attached instances .absent = [] ↔ ∀ props ∈ instances.values, ¬ props.HasFreeSide := by
  simp only [List.eq_nil_iff_forall_not_mem, mem_attached, InstanceProps.HasFreeSide]
  constructor
  · intro nobody props listed free
    exact nobody props.id ⟨props, listed, rfl, free⟩
  · rintro taken id ⟨props, listed, -, free⟩
    exact taken props listed free

/-! ## What is listed -/

theorem mem_keys_peers {raw : UInt32} :
    raw ∈ (peers instances gateways).keys ↔ ∃ gateway ∈ gateways, gateway.id.raw = raw := by
  rw [peers, OrderedMap.mem_keys_ofList, List.map_map, List.mem_map]
  rfl

/-- A listed id has the instances with that id on one side, however often it is listed. -/
theorem find?_peers {raw : UInt32} {ids : List InstanceId} : (peers instances gateways).find? raw = some ids ↔
    (∃ gateway ∈ gateways, gateway.id.raw = raw) ∧ ids = attached instances ⟨raw⟩ := by
  have found : ∀ ids, (peers instances gateways).find? raw = some ids → ids = attached instances ⟨raw⟩ := by
    intro ids found
    obtain ⟨gateway, -, same⟩ := List.mem_map.mp (OrderedMap.mem_of_find?_ofList found)
    cases same
    rfl
  rw [← @mem_keys_peers instances gateways raw, OrderedMap.mem_keys_iff]
  constructor
  · exact fun some => ⟨⟨ids, some⟩, found ids some⟩
  · rintro ⟨⟨others, some⟩, rfl⟩
    rwa [← found others some]

theorem find?_peers_of_mem {gateway : Gateway} (listed : gateway ∈ gateways) :
    (peers instances gateways).find? gateway.id.raw = some (attached instances gateway.id) :=
  find?_peers.mpr ⟨⟨gateway, listed, rfl⟩, rfl⟩

/-- Only which ids are listed matters. -/
theorem peers_relisted {others : List Gateway} (same : ∀ id : ConnectorId,
    (∃ gateway ∈ others, gateway.id = id) ↔ ∃ gateway ∈ gateways, gateway.id = id) :
    peers instances others = peers instances gateways := by
  have listed : ∀ (list : List Gateway) (raw : UInt32),
      (∃ gateway ∈ list, gateway.id.raw = raw) ↔ ∃ gateway ∈ list, gateway.id = ⟨raw⟩ := by
    intro list raw
    refine exists_congr fun gateway => and_congr_right fun _ => ⟨congrArg ConnectorId.mk, ?_⟩
    intro same
    rw [same]
  refine OrderedMap.ext_find? fun raw => Option.ext fun ids => ?_
  rw [find?_peers, find?_peers, listed, listed, same]

/-! ## The peers of a topology -/

/-- What a computation of links makes of the listed gateways. -/
structure Peered (before after : Topology) : Prop where
  exact_iff : after.PeersExact ↔ ((∃ gateway ∈ before.gateways, gateway.id = .absent) →
    ∀ props ∈ before.instances.values, ¬ props.HasFreeSide)
  keys : ∀ raw, raw ∈ after.gatewayPeers.keys ↔ ∃ gateway ∈ before.gateways, gateway.id.raw = raw
  /-- The peers of a gateway are exact whatever else is listed. -/
  atGateways : ∀ gateway ∈ before.gateways, gateway.id.isValid = true → ∃ ids,
    after.gatewayPeers.find? gateway.id.raw = some ids ∧ before.instances.PeersOf gateway.id ids
  atNone : ∀ gateway ∈ before.gateways, gateway.id = .absent → ∃ ids,
    after.gatewayPeers.find? gateway.id.raw = some ids ∧
      ∀ id, id ∈ ids ↔ ∃ props ∈ before.instances.values, props.id = id ∧ props.HasFreeSide
  /-- Listing gateways more than once, or in another order, makes no difference. -/
  relisted : ∀ others : List Gateway, (∀ id : ConnectorId,
      (∃ gateway ∈ others, gateway.id = id) ↔ ∃ gateway ∈ before.gateways, gateway.id = id) →
    { before with gateways := others }.computeLinks = .ok { after with gateways := others }

theorem keys_of_computeLinks (computed : topology.computeLinks = .ok linked) (raw : UInt32) :
    raw ∈ linked.gatewayPeers.keys ↔ ∃ gateway ∈ topology.gateways, gateway.id.raw = raw := by
  rw [(relinked_of_computeLinks computed).gatewayPeers, mem_keys_peers]

theorem found_of_computeLinks (computed : topology.computeLinks = .ok linked) {gateway : Gateway}
    (listed : gateway ∈ topology.gateways) :
    linked.gatewayPeers.find? gateway.id.raw = some (attached topology.instances gateway.id) := by
  rw [(relinked_of_computeLinks computed).gatewayPeers, find?_peers_of_mem listed]

/-- The id of "no gateway" is what the peers may be wrong about. -/
theorem peersExact_iff (computed : topology.computeLinks = .ok linked) :
    linked.PeersExact ↔ ((∃ gateway ∈ topology.gateways, gateway.id = .absent) →
      ∀ props ∈ topology.instances.values, ¬ props.HasFreeSide) := by
  have relinked := relinked_of_computeLinks computed
  constructor
  · rintro exactly ⟨gateway, listed, isAbsent⟩
    obtain ⟨ids, found, peersOf⟩ := exactly.peers gateway (relinked.gateways ▸ listed)
    rw [found_of_computeLinks computed listed, Option.some.injEq] at found
    rw [isAbsent] at found peersOf
    rw [← attached_absent_eq_nil_iff, found]
    exact peersOf_absent_iff.mp peersOf
  · intro taken
    constructor
    · rw [relinked.gateways]
      exact keys_of_computeLinks computed
    · rw [relinked.gateways, relinked.instances]
      intro gateway listed
      refine ⟨_, found_of_computeLinks computed listed, ?_⟩
      by_cases isAbsent : gateway.id = .absent
      · rw [isAbsent, peersOf_absent_iff, attached_absent_eq_nil_iff]
        exact taken ⟨gateway, listed, isAbsent⟩
      · exact peersOf_attached (bne_iff_ne.mpr isAbsent)

theorem computeLinks_relisted_gateways (computed : topology.computeLinks = .ok linked) {others : List Gateway}
    (same : ∀ id : ConnectorId,
      (∃ gateway ∈ others, gateway.id = id) ↔ ∃ gateway ∈ topology.gateways, gateway.id = id) :
    { topology with gateways := others }.computeLinks = .ok { linked with gateways := others } := by
  obtain ⟨resolution, resolved, rfl⟩ := computeLinks_eq_ok_iff.mp computed
  refine computeLinks_eq_ok_iff.mpr ⟨resolution, resolved, ?_⟩
  simp only [withResolution, peers_relisted same]

/-- The peers that are computed are exact if "no gateway" is not listed or every side has a gateway, and only then.
For every gateway they are, whatever is listed; what has a free side stands with "no gateway" if this is listed. -/
theorem peered_of_computeLinks (computed : topology.computeLinks = .ok linked) : Peered topology linked where
  exact_iff := peersExact_iff computed
  keys := keys_of_computeLinks computed
  atGateways gateway listed valid := ⟨_, found_of_computeLinks computed listed, peersOf_attached valid⟩
  atNone gateway listed isAbsent := by
    refine ⟨_, found_of_computeLinks computed listed, fun id => ?_⟩
    rw [isAbsent]
    exact mem_attached
  relisted others := computeLinks_relisted_gateways computed

/-- In a topology that was put together the peers at every listed id are in ascending order, and so each of them once. -/
theorem ascending_peers_of_built {list : List InstanceProps} {pipelines : List Pipeline}
    {schedules : List CoreSchedule}
    (computed : (of capturedAt list gateways pipelines schedules).computeLinks = .ok linked) {gateway : Gateway}
    (listed : gateway ∈ gateways) : ∃ ids, linked.gatewayPeers.find? gateway.id.raw = some ids ∧
      ids.Pairwise fun a b => Ranked.rank a < Ranked.rank b :=
  ⟨_, found_of_computeLinks computed listed,
    ascending_attached (ownIds_of capturedAt list gateways pipelines schedules) gateway.id⟩

/-- A copier with a host gateway at its input, and an instance without gateways behind it. -/
def sampleAt (gateways : List ConnectorId) : Topology :=
  .of ⟨0, 0⟩ [{ InstanceProps.bare ⟨0, 1⟩ with inputGateway := ⟨1⟩ }, .bare ⟨5, 0⟩] (gateways.map fun id => ⟨id, 0⟩)
    [.bare 1 0 [⟨0, 1⟩, ⟨5, 0⟩]] []

/-- The gateway of the copier listed twice, and one that nothing is attached to. -/
theorem sample_peered : ∃ linked, (sampleAt [⟨1⟩, ⟨3072⟩, ⟨1⟩]).computeLinks = .ok linked ∧ linked.PeersExact ∧
    linked.gatewayPeers.entries = [(1, [⟨0, 1⟩]), (3072, [])] := by
  obtain ⟨linked, computed⟩ := exists_computeLinks_iff.mpr
    (by decide : ∀ pipeline ∈ (sampleAt [⟨1⟩, ⟨3072⟩, ⟨1⟩]).pipelines, ∀ id ∈ pipeline.instances,
      id ∈ (sampleAt [⟨1⟩, ⟨3072⟩, ⟨1⟩]).instances.keys)
  have peered := peered_of_computeLinks computed
  refine ⟨linked, computed, peered.exact_iff.mpr (fun listed => absurd listed (by decide)), ?_⟩
  rw [(relinked_of_computeLinks computed).gatewayPeers]
  decide

/-- Where "no gateway" is listed, an instance without a gateway is a peer of it. -/
theorem free_sides_are_peers : ∃ linked, (sampleAt [.absent]).computeLinks = .ok linked ∧
    linked.gatewayPeers.find? ConnectorId.absent.raw = some [⟨0, 1⟩, ⟨5, 0⟩] ∧ ¬ linked.PeersExact := by
  obtain ⟨linked, computed⟩ := exists_computeLinks_iff.mpr
    (by decide : ∀ pipeline ∈ (sampleAt [.absent]).pipelines, ∀ id ∈ pipeline.instances,
      id ∈ (sampleAt [.absent]).instances.keys)
  have found := found_of_computeLinks computed (List.mem_singleton_self _)
  refine ⟨linked, computed, found.trans (by decide), fun exactly => ?_⟩
  have taken := (peersExact_iff computed).mp exactly ⟨_, List.mem_singleton_self _, rfl⟩
  exact taken (.bare ⟨5, 0⟩) (by decide) (.inl rfl)

end Topology

end DspInspector

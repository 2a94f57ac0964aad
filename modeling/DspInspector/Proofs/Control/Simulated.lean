import DspInspector.Control.Connection
import DspInspector.Control.Simulation
import DspInspector.Proofs.Data.BitFields
import DspInspector.Proofs.Data.Maps
import DspInspector.Proofs.Data.Outcomes
import DspInspector.Proofs.Tlv.Filing
import DspInspector.Proofs.Wire.Deciding
import Mathlib.Tactic.MkIffOfInductiveProp

/-!
# What the simulated firmware answers

An image is asked through the same questions as a device. Each answer is the object of the image, whatever
was written and counted before (`Gives`), as long as it fits into the room for it.
-/

namespace DspInspector

/-! ## Extended ids -/

/-- An extended id is a word with the tag in its low byte and the object above. -/
theorem ParameterId.extended_word {tag sub : UInt32} (tagSmall : tag.toNat < 2 ^ 8) (subSmall : sub.toNat < 2 ^ 24) :
    ParameterId.extended tag sub = .ok ⟨tag ||| sub <<< 8⟩ ∧
      (tag ||| sub <<< 8).toNat = tag.toNat + sub.toNat * 2 ^ 8 := by
  have tagFits : ¬ tag ≥ 0x100 := by
    rw [ge_iff_le, UInt32.le_iff_toNat_le]
    exact Nat.not_le.mpr tagSmall
  have subFits : ¬ sub ≥ 0x1000000 := by
    rw [ge_iff_le, UInt32.le_iff_toNat_le]
    exact Nat.not_le.mpr subSmall
  have fits : sub.toNat * 2 ^ 8 < 2 ^ 32 := by omega
  refine ⟨?_, toNat_or_shiftLeft tagSmall fits (by decide)⟩
  rw [extended, if_neg tagFits, if_neg subFits]

/-- An extended id tells its two parts. -/
theorem ParameterId.extended_eq {tag sub : UInt32} (tagSmall : tag.toNat < 2 ^ 8) (subSmall : sub.toNat < 2 ^ 24) :
    ∃ id, ParameterId.extended tag sub = .ok id ∧ id.typeTag = tag ∧ id.subId = sub := by
  obtain ⟨accepted, sum⟩ := ParameterId.extended_word tagSmall subSmall
  refine ⟨⟨tag ||| sub <<< 8⟩, accepted, ?_, ?_⟩
  · apply UInt32.toNat_inj.mp
    rw [typeTag, toNat_and_mask 8 rfl, sum]
    omega
  · apply UInt32.toNat_inj.mp
    show ((tag ||| sub <<< 8) >>> 8).toNat = sub.toNat
    rw [UInt32.toNat_shiftRight, sum, Nat.shiftRight_eq_div_pow]
    show (tag.toNat + sub.toNat * 2 ^ 8) / 2 ^ 8 = sub.toNat
    omega

/-- A number of more than twenty-four bits does not fit into an extended id. -/
theorem ParameterId.extended_refused (tag : UInt32) {sub : UInt32} (large : 2 ^ 24 ≤ sub.toNat) :
    ∃ cause, ParameterId.extended tag sub = .error cause := by
  have exceeds : sub ≥ 0x1000000 := UInt32.le_iff_toNat_le.mpr large
  rw [extended, if_pos exceeds]
  split <;> exact ⟨_, rfl⟩

/-- A parameter of the base firmware is known by its code. -/
theorem ParameterId.ofRaw_typeTag_ofBase (parameter : BaseParameter) :
    (Coded.ofRaw (ParameterId.ofBase parameter).typeTag : Coded BaseParameter) = .known parameter := by
  cases parameter <;> rfl

namespace Simulation

variable {α β κ : Type}

/-! ## Actions that give a value -/

/-- Begun in any state of the simulation, the action gives this value and changes nothing but the counts. -/
def Gives (action : Action Fault Simulation α) (value : α) : Prop :=
  ∀ simulation, ∃ stats, action simulation = .ok value { simulation with stats }

theorem gives_pure (value : α) : Gives (pure value) value := fun simulation => ⟨simulation.stats, rfl⟩

theorem Gives.bind {first : Action Fault Simulation α} {next : α → Action Fault Simulation β} {value : α}
    {result : β} (one : Gives first value) (two : Gives (next value) result) : Gives (first >>= next) result := by
  intro simulation
  obtain ⟨between, ranFirst⟩ := one simulation
  obtain ⟨after, ranNext⟩ := two { simulation with stats := between }
  exact ⟨after, (Action.bind_of_ok ranFirst).trans ranNext⟩

theorem Gives.mapError {action : Action Fault Simulation α} {value : α} (gives : Gives action value)
    (change : Fault → Fault) : Gives (action.mapError change) value := by
  intro simulation
  obtain ⟨stats, ran⟩ := gives simulation
  exact ⟨stats, by rw [Action.mapError, ran]⟩

theorem gives_ofExcept {result : Except Fault α} {value : α} (ok : result = .ok value) :
    Gives (Action.ofExcept result) value := by
  rw [ok]
  exact gives_pure value

/-- Asking for one thing after the other gives all of them. -/
theorem gives_mapM {ask : κ → Action Fault Simulation α} {keys : List κ} {values : List α}
    (each : List.Forall₂ (fun key value => Gives (ask key) value) keys values) : Gives (keys.mapM ask) values := by
  induction each with
  | nil =>
    rw [List.mapM_nil]
    exact gives_pure []
  | cons first _ ih =>
    rw [List.mapM_cons]
    exact first.bind (ih.bind (gives_pure _))

/-! ## Actions that fail -/

/-- Begun where nothing was written, the action fails and nothing is written. -/
def Fails (action : Action Fault Simulation α) : Prop :=
  ∀ stats, ∃ cause after, action ⟨[], stats⟩ = .error cause ⟨[], after⟩

theorem Fails.not_gives {action : Action Fault Simulation α} (fails : Fails action) (value : α) :
    ¬ Gives action value := by
  intro gives
  obtain ⟨_, ran⟩ := gives fresh
  obtain ⟨_, _, failed⟩ := fails .zero
  cases ran.symm.trans failed

theorem Fails.bind {action : Action Fault Simulation α} (fails : Fails action)
    (next : α → Action Fault Simulation β) : Fails (action >>= next) := by
  intro stats
  obtain ⟨cause, after, failed⟩ := fails stats
  exact ⟨cause, after, Action.bind_of_error failed⟩

theorem Gives.bind_fails {first : Action Fault Simulation α} {next : α → Action Fault Simulation β} {value : α}
    (gives : Gives first value) (fails : Fails (next value)) : Fails (first >>= next) := by
  intro stats
  obtain ⟨between, ran⟩ := gives ⟨[], stats⟩
  obtain ⟨cause, after, failed⟩ := fails between
  exact ⟨cause, after, (Action.bind_of_ok ran).trans failed⟩

/-- Asking for one thing after the other fails where one of the questions does. -/
theorem fails_mapM {ask : κ → Action Fault Simulation α} {keys : List κ}
    (each : ∀ key ∈ keys, (∃ value, Gives (ask key) value) ∨ Fails (ask key))
    (fails : ∃ key ∈ keys, Fails (ask key)) : Fails (keys.mapM ask) := by
  induction keys with
  | nil => simp at fails
  | cons key keys ih =>
    rw [List.mapM_cons]
    obtain ⟨first, others⟩ := List.forall_mem_cons.mp each
    rcases first with ⟨value, gives⟩ | failed
    -- an answer writes nothing, so what fails later still begins where nothing was written
    · refine gives.bind_fails (Fails.bind (ih others ?_) _)
      obtain ⟨failing, member, failed⟩ := fails
      rcases List.mem_cons.mp member with rfl | later
      · exact absurd gives (failed.not_gives value)
      · exact ⟨failing, later, failed⟩
    · exact failed.bind _

/-! ## Questions -/

section Questions

variable {image : Image} {target : InstanceId} {parameter : ParameterId} {capacity : Nat}

theorem gives_ask {bytes : List UInt8} (answer : ∀ simulation, reply image simulation target parameter = .ok bytes)
    (room : bytes.length ≤ capacity) :
    Gives (Connection.ask (transport image) target parameter capacity) bytes := by
  refine Gives.mapError (fun simulation => ⟨simulation.stats.recordQuery bytes.length, ?_⟩) _
  simp only [transport, answer, List.take_of_length_le room]

theorem gives_askValue [Wire α] {value : α} (echoed : Wire.Echoed value)
    (answer : ∀ simulation, reply image simulation target parameter = .ok (Wire.write value))
    (room : (Wire.write value).length ≤ capacity) :
    Gives (Connection.askValue α (transport image) target parameter capacity) value := by
  have read := echoed []
  rw [List.append_nil] at read
  have decoded : Connection.decodeReply α (Wire.write value) = .ok value := by
    simp only [Connection.decodeReply, Wire.decode, read]
  exact (gives_ask answer room).bind (gives_ofExcept decoded)

theorem gives_askTagged {ρ : Type} {dictionary : Tlv.Dictionary ρ} {nothing : ρ} {question : BaseParameter}
    {records : List Tlv.Record}
    (answer : ∀ simulation, reply image simulation Connection.base (.ofBase question) = .ok (Tlv.writeAll records))
    (room : (Tlv.writeAll records).length ≤ capacity) :
    Gives (Connection.askTagged (transport image) dictionary nothing question capacity)
      (Tlv.received dictionary nothing records) :=
  (gives_ask answer room).bind (gives_pure _)

/-- What the base firmware is asked for is a parameter of its own. -/
theorem reply_base (simulation : Simulation) (parameter : ParameterId) :
    reply image simulation Connection.base parameter = baseReply image simulation parameter :=
  if_pos rfl

end Questions

end Simulation

/-! ## Images that can be asked -/

/-- A value that one reply can carry and that reading gives back. -/
@[mk_iff]
structure Layout.Deliverable (layout : Layout) (value : layout.Value) : Prop where
  canonical : layout.Canonical value
  small : (layout.wire.write value).length ≤ payloadLimit

instance (layout : Layout) (value : layout.Value) : Decidable (layout.Deliverable value) :=
  decidable_of_iff _ (layout.deliverable_iff value).symm

namespace Image

/-- The lists keep to the limits that the image declares, pipelines are told apart by ids of twenty-four bits,
and every object can be delivered. -/
@[mk_iff]
structure WellFormed (image : Image) : Prop where
  pipelineCount : image.pipelines.length ≤ image.maxPipelines.toNat
  measurementCount : image.measurements.length ≤ image.maxInstances.toNat + image.cores.toNat
  measurementLimit : image.maxInstances.toNat + image.cores.toNat < UInt32.size
  scheduleCount : image.schedules.length = image.cores.toNat
  pipelineIds : (image.pipelines.map (·.id)).Nodup
  pipelineIdRange : ∀ pipeline ∈ image.pipelines, pipeline.id.toNat < 2 ^ 24
  modules : (Layout.list .moduleEntry).Canonical image.modules
  gateways : (Layout.list .gateway).Canonical image.gateways
  pipelines : ∀ pipeline ∈ image.pipelines, Layout.pipeline.Deliverable pipeline
  schedules : ∀ schedule ∈ image.schedules, Layout.coreSchedule.Deliverable schedule
  instances : ∀ props ∈ image.instances.values, Layout.instanceProps.Deliverable props
  lowPowerMemory : ∀ bank ∈ image.lowPowerMemory, bank.Canonical
  highPowerMemory : ∀ bank ∈ image.highPowerMemory, bank.Canonical
  memorySmall : (Tlv.writeAll image.memoryRecords).length ≤ payloadLimit

instance (image : Image) : Decidable image.WellFormed := decidable_of_iff _ image.wellFormed_iff.symm

/-- What is known of an image after the first two questions. -/
def connection (image : Image) : Connection := ⟨image.firmwareConfig, image.hardwareConfig, image.limits⟩

end Image

namespace Simulation

open Wire Connection

variable {image : Image}

/-- Both configurations are short, so they are received whole. -/
theorem gives_establish : Gives (establish (transport image)) image.connection := by
  have firmwareLength : (Tlv.writeAll image.firmwareRecords).length = 52 := rfl
  have hardwareLength : (Tlv.writeAll image.hardwareRecords).length = 24 := rfl
  have firmware : Gives (askTagged (transport image) FirmwareConfig.dictionary .empty .firmwareConfig configReplySize)
      image.firmwareConfig := by
    rw [← image.received_firmwareRecords]
    refine gives_askTagged (fun simulation => ?_) (by rw [firmwareLength]; decide)
    rw [reply_base, baseReply, ParameterId.ofRaw_typeTag_ofBase]
  have hardware : Gives (askTagged (transport image) HardwareConfig.dictionary .empty .hardwareConfig configReplySize)
      image.hardwareConfig := by
    rw [← image.received_hardwareRecords]
    refine gives_askTagged (fun simulation => ?_) (by rw [hardwareLength]; decide)
    rw [reply_base, baseReply, ParameterId.ofRaw_typeTag_ofBase]
  refine (firmware.mapError _).bind ((hardware.mapError _).bind ?_)
  rw [image.limits_of_configs]
  exact gives_pure image.connection

theorem gives_moduleEntries (wellFormed : image.WellFormed) :
    Gives (moduleEntries image.connection (transport image)) image.modules := by
  have count : image.connection.limits.modules.toNat = image.modules.length :=
    UInt32.toNat_ofNat_of_lt' wellFormed.modules.1
  refine Gives.bind (gives_askValue (Layout.echoed _ _ wellFormed.modules) (fun simulation => ?_) ?_) ?_
  · rw [reply_base, baseReply, ParameterId.ofRaw_typeTag_ofBase]
  · exact Nat.le_of_eq ((length_write_list rfl image.modules).trans (congrArg ModuleEntry.listSize count.symm))
  · rw [if_pos count.symm]
    exact gives_pure image.modules

/-- A list that keeps to its limit fits into the room for that many members and passes the check. -/
theorem gives_listing {α : Type} [Wire α] [Measured α] {n : Nat} (declared : Wire.size α = some n) {values : List α}
    (echoed : Echoed values) {limit : UInt32} (within : values.length ≤ limit.toNat) {question : BaseParameter}
    (answer : ∀ simulation, reply image simulation base (.ofBase question) = .ok (Wire.write values))
    (listing : Listing) :
    Gives (do
      let items ← askValue (List α) (transport image) base (.ofBase question) (4 + limit.toNat * n)
      Action.ofExcept (checkLength listing limit items)) values := by
  have room : (Wire.write values).length ≤ 4 + limit.toNat * n := by
    rw [length_write_list declared]
    exact Nat.add_le_add_left (Nat.mul_le_mul_right n within) 4
  exact (gives_askValue echoed answer room).bind (gives_ofExcept (if_pos within))

theorem gives_pipelineIds (wellFormed : image.WellFormed) :
    Gives (pipelineIds image.connection (transport image)) (image.pipelines.map (·.id)) := by
  have within : (image.pipelines.map (·.id)).length ≤ image.maxPipelines.toNat := by
    rw [List.length_map]
    exact wellFormed.pipelineCount
  have fits : Fits (image.pipelines.map (·.id)) := Nat.lt_of_le_of_lt within image.maxPipelines.toNat_lt
  refine gives_listing rfl (echoed_list_of_faithful fits) within (fun simulation => ?_) .pipelines
  rw [reply_base, baseReply, ParameterId.ofRaw_typeTag_ofBase]

theorem gives_gateways (wellFormed : image.WellFormed) :
    Gives (gateways image.connection (transport image)) image.gateways := by
  have count : (UInt32.ofNat image.gateways.length).toNat = image.gateways.length :=
    UInt32.toNat_ofNat_of_lt' wellFormed.gateways.1
  refine gives_listing rfl (Layout.echoed (.list .gateway) _ wellFormed.gateways) (Nat.le_of_eq count.symm)
    (fun simulation => ?_) .gateways
  rw [reply_base, baseReply, ParameterId.ofRaw_typeTag_ofBase]

theorem gives_measurements (wellFormed : image.WellFormed) :
    Gives (measurements image.connection (transport image)) image.measurements := by
  have small : image.maxInstances.toNat + image.cores.toNat < UInt32.size := wellFormed.measurementLimit
  have within : image.measurements.length ≤ (UInt32.ofNat (image.maxInstances.toNat + image.cores.toNat)).toNat := by
    rw [UInt32.toNat_ofNat_of_lt' small]
    exact wellFormed.measurementCount
  have fits : Fits image.measurements := Nat.lt_of_le_of_lt wellFormed.measurementCount small
  rw [measurements_of_lt (transport image) small]
  refine gives_listing rfl (echoed_list_of_faithful fits) within (fun simulation => ?_) .measurements
  rw [reply_base, baseReply, ParameterId.ofRaw_typeTag_ofBase]

theorem gives_memoryState (wellFormed : image.WellFormed) :
    Gives (Connection.memoryState (transport image)) image.memoryState := by
  rw [← image.received_memoryRecords wellFormed.lowPowerMemory wellFormed.highPowerMemory wellFormed.memorySmall]
  refine gives_askTagged (fun simulation => ?_) wellFormed.memorySmall
  rw [reply_base, baseReply, ParameterId.ofRaw_typeTag_ofBase]

/-! ## Objects by number -/

/-- An object of the base firmware is asked for by an extended id that names it. -/
theorem gives_askObject {α : Type} [Wire α] {question : BaseParameter} {object : UInt32} {value : α}
    (echoed : Echoed value) (small : (Wire.write value).length ≤ payloadLimit) (range : object.toNat < 2 ^ 24)
    (answer : ∀ simulation id, (Coded.ofRaw id.typeTag : Coded BaseParameter) = .known question → id.subId = object →
      baseReply image simulation id = .ok (Wire.write value)) :
    Gives (askObject α (transport image) question object) value := by
  have code : (Enumeration.coding question).code.toNat < 2 ^ 8 := by cases question <;> decide
  obtain ⟨id, extended, tag, sub⟩ := ParameterId.extended_eq code range
  have known : (Coded.ofRaw id.typeTag : Coded BaseParameter) = .known question := by
    rw [tag]
    exact Lawful.ofRaw_code question
  rw [askObject, extended]
  refine gives_askValue echoed (fun simulation => ?_) small
  rw [reply_base]
  exact answer simulation id known sub

/-- A pipeline is found by its id when no other has it. -/
theorem find?_pipeline {pipelines : List Pipeline} (distinct : (pipelines.map (·.id)).Nodup) {pipeline : Pipeline}
    (member : pipeline ∈ pipelines) : pipelines.find? (·.id == pipeline.id) = some pipeline := by
  induction pipelines with
  | nil => cases member
  | cons first pipelines ih =>
    obtain ⟨fresh, distinct⟩ := List.nodup_cons.mp distinct
    rcases List.mem_cons.mp member with rfl | later
    · exact List.find?_cons_of_pos (beq_self_eq_true pipeline.id)
    · have other : (first.id == pipeline.id) = false :=
        beq_eq_false_iff_ne.mpr fun same => fresh (List.mem_map.mpr ⟨pipeline, later, same.symm⟩)
      simp only [List.find?_cons, other]
      exact ih distinct later

theorem gives_pipelineProps (wellFormed : image.WellFormed) {pipeline : Pipeline}
    (member : pipeline ∈ image.pipelines) : Gives (pipelineProps (transport image) pipeline.id) pipeline := by
  obtain ⟨canonical, small⟩ := wellFormed.pipelines pipeline member
  refine gives_askObject (Pipeline.echoed canonical) small (wellFormed.pipelineIdRange pipeline member) ?_
  intro simulation id known named
  rw [baseReply, known, named, find?_pipeline wellFormed.pipelineIds member]

theorem gives_coreSchedule (wellFormed : image.WellFormed) {core : UInt32} (range : core.toNat < 2 ^ 24)
    {schedule : CoreSchedule} (listed : image.schedules[core.toNat]? = some schedule) :
    Gives (coreSchedule (transport image) core) schedule := by
  obtain ⟨canonical, small⟩ := wellFormed.schedules schedule (List.mem_of_getElem? listed)
  refine gives_askObject (CoreSchedule.echoed canonical) small range ?_
  intro simulation id known named
  rw [baseReply, known, named, listed]

/-- There is no extended id for a core with a larger number. -/
theorem fails_coreSchedule {core : UInt32} (large : 2 ^ 24 ≤ core.toNat) :
    Fails (coreSchedule (transport image) core) := by
  obtain ⟨cause, refused⟩ := ParameterId.extended_refused (Enumeration.coding BaseParameter.schedulers).code large
  rw [coreSchedule, askObject, refused]
  exact fun stats => ⟨_, stats, rfl⟩

/-- Every instance answers for itself but the one in whose place the base firmware answers. -/
theorem gives_instanceProps (wellFormed : image.WellFormed) {id : InstanceId} {props : InstanceProps}
    (found : image.instances.find? id = some props) (other : id ≠ base) :
    Gives (instanceProps (transport image) id) props := by
  obtain ⟨canonical, small⟩ := wellFormed.instances props (OrderedMap.mem_values_of_find? found)
  have elsewhere : ¬ id = ⟨0, 0⟩ := other
  refine gives_askValue (InstanceProps.echoed canonical) (fun simulation => ?_) small
  rw [reply, if_neg elsewhere, if_pos rfl, found]

/-- The base firmware answers for itself where an instance would, and has no props. -/
theorem fails_baseProps : Fails (Connection.instanceProps (transport image) Connection.base) := fun _ => ⟨_, _, rfl⟩

end Simulation

end DspInspector

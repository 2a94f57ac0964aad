import DspInspector.Control.Connection
import DspInspector.Proofs.Capability.Responses
import DspInspector.Proofs.Data.Outcomes

/-!
# Establishing a connection

Six values have to be received before anything else can be asked. Whether a pair of replies has them is a question
about their complete records alone (`Complete`): a record that nobody asked for, that has a wrong size or that is cut
off neither hides a value nor takes one back. `establish_verdict` says what becomes of every attempt.
-/

namespace DspInspector

open Tlv Wire

namespace Tlv

/-- The last record of a tag among those whose value has the size. -/
def latest (tag : UInt32) (size : Nat) (records : List Record) : Option Record :=
  (records.filter fun record => record.tag == tag && record.value.length == size).getLast?

theorem latest_eq_none_iff {tag : UInt32} {size : Nat} {records : List Record} :
    latest tag size records = none ↔ ¬ ∃ record ∈ records, record.tag = tag ∧ record.value.length = size := by
  simp [latest]

/-- A single value whose bytes are never refused is the value of the last record of the right size. -/
theorem Kind.Holds.latest_eq {σ α : Type} [format : Wire α] [Faithful α] [Exhaustive α] {n : Nat}
    (declared : Wire.size α = some n) {field : Field σ (Option α)} {tag : UInt32} {records : List Record}
    {held : Option α} (holds : (Kind.scalar format field).Holds (records.filter (·.tag == tag)) held) :
    latest tag n records = held.map (.of tag) := by
  have sized : (Kind.scalar format field).sized (records.filter (·.tag == tag)) =
      records.filter fun record => record.tag == tag && record.value.length == n := by
    rw [Kind.sized, List.filter_filter]
    refine List.filter_congr fun record _ => ?_
    simp [Kind.slot, Slot.scalar, declared, Bool.and_comm, BEq.comm (a := n)]
  rw [Kind.Holds, sized] at holds
  rw [holds, latest]
  -- Only the last record counts, and its bytes are a value; what the ones before it say does not matter.
  rcases List.eq_nil_or_concat (records.filter fun record => record.tag == tag && record.value.length == n) with
    empty | ⟨earlier, record, split⟩
  · simp [empty]
  · have member : record ∈ records.filter fun record => record.tag == tag && record.value.length == n := by
      simp [split]
    obtain ⟨-, tagged, length⟩ : record ∈ records ∧ record.tag = tag ∧ record.value.length = n := by
      simpa using member
    obtain ⟨value, written⟩ := Exhaustive.exists_write declared length
    have read := Faithful.echoed value []
    rw [List.append_nil, written] at read
    have found : Kind.exactly format record.value = some value := by simp [Kind.exactly, read]
    rw [split]
    simp [found, Record.of, written, ← tagged]

end Tlv

/-! ## What is needed -/

/-- A value that is needed: the tag of its records, their size, and its name. -/
structure Needed where
  tag : UInt32
  size : Nat
  label : String

namespace Needed

def version : Needed := ⟨0, 8, "fw version"⟩
def modules : Needed := ⟨12, 4, "modules count"⟩
def pipelines : Needed := ⟨9, 4, "max pipeline count"⟩
def instances : Needed := ⟨13, 4, "max module instance count"⟩
def gateways : Needed := ⟨6, 4, "gateway count"⟩
def cores : Needed := ⟨1, 4, "dsp cores"⟩

/-- One of the records is of the value. -/
def Among (needed : Needed) (records : List Record) : Prop :=
  ∃ record ∈ records, record.tag = needed.tag ∧ record.value.length = needed.size

instance (needed : Needed) (records : List Record) : Decidable (needed.Among records) :=
  inferInstanceAs (Decidable (∃ record ∈ records, _))

/-- The last of the records that are of the value. -/
def latest (needed : Needed) (records : List Record) : Option Record := Tlv.latest needed.tag needed.size records

theorem isNone_latest (needed : Needed) (records : List Record) :
    (needed.latest records).isNone = decide (¬ needed.Among records) := by
  rw [Bool.eq_iff_iff, Option.isNone_iff_eq_none, decide_eq_true_iff]
  exact latest_eq_none_iff

end Needed

/-- The limits are what the last records say. -/
structure Limits.Taken (limits : Limits) (firmware hardware : List Record) : Prop where
  version : Needed.version.latest firmware = some (.of 0 limits.version)
  modules : Needed.modules.latest firmware = some (.of 12 limits.modules)
  pipelines : Needed.pipelines.latest firmware = some (.of 9 limits.pipelines)
  instances : Needed.instances.latest firmware = some (.of 13 limits.instances)
  gateways : Needed.gateways.latest hardware = some (.of 6 limits.gateways)
  cores : Needed.cores.latest hardware = some (.of 1 limits.cores)

/-- The checks agree: the limits are there when nothing is missing. -/
theorem Limits.of_cases (config : FirmwareConfig) (machine : HardwareConfig) :
    (∃ limits, Limits.of config machine = .ok limits ∧ Limits.missing config machine = [] ∧
      config.version = some limits.version ∧ config.modules = some limits.modules ∧
      config.maxPipelines = some limits.pipelines ∧ config.maxInstances = some limits.instances ∧
      machine.gateways = some limits.gateways ∧ machine.cores = some limits.cores) ∨
    Limits.of config machine = .error (.incomplete (Limits.missing config machine)) ∧
      Limits.missing config machine ≠ [] := by
  unfold Limits.of
  split
  · rename_i version modules pipelines instances gateways cores
    refine .inl ⟨_, rfl, ?_, version, modules, pipelines, instances, gateways, cores⟩
    simp [missing, version, modules, pipelines, instances, gateways, cores]
  · rename_i incomplete
    refine .inr ⟨rfl, fun nothing => ?_⟩
    have received : config.version.isSome ∧ config.modules.isSome ∧ config.maxPipelines.isSome ∧
        config.maxInstances.isSome ∧ machine.gateways.isSome ∧ machine.cores.isSome := by
      simpa [missing] using nothing
    simp only [Option.isSome_iff_exists] at received
    obtain ⟨⟨_, version⟩, ⟨_, modules⟩, ⟨_, pipelines⟩, ⟨_, instances⟩, ⟨_, gateways⟩, ⟨_, cores⟩⟩ := received
    exact incomplete _ _ _ _ _ _ version modules pipelines instances gateways cores

namespace Connection

/-- What is needed of the two replies, in the order in which it is missed. -/
def required (firmware hardware : List Record) : List (Needed × List Record) :=
  [(.version, firmware), (.modules, firmware), (.pipelines, firmware), (.instances, firmware), (.gateways, hardware),
    (.cores, hardware)]

/-- Nothing that is needed is missing. -/
def Complete (firmware hardware : List Record) : Prop :=
  ∀ each ∈ required firmware hardware, each.1.Among each.2

/-- The names of what is missing. -/
def lacking (firmware hardware : List Record) : List String :=
  ((required firmware hardware).filter fun each => ¬ each.1.Among each.2).map (·.1.label)

theorem lacking_eq_nil_iff {firmware hardware : List Record} :
    lacking firmware hardware = [] ↔ Complete firmware hardware := by
  simp [lacking, Complete, List.filter_eq_nil_iff]

/-! ## What was received -/

/-- The configurations hold what the last records say, as far as it is needed. -/
structure Received (firmware hardware : List Record) (config : FirmwareConfig) (machine : HardwareConfig) : Prop where
  version : Needed.version.latest firmware = config.version.map (.of 0)
  modules : Needed.modules.latest firmware = config.modules.map (.of 12)
  pipelines : Needed.pipelines.latest firmware = config.maxPipelines.map (.of 9)
  instances : Needed.instances.latest firmware = config.maxInstances.map (.of 13)
  gateways : Needed.gateways.latest hardware = machine.gateways.map (.of 6)
  cores : Needed.cores.latest hardware = machine.cores.map (.of 1)

theorem received_of_cut {first second firstTail secondTail : List UInt8} {firmware hardware : List Record}
    (cutFirst : Cut first firmware firstTail) (cutSecond : Cut second hardware secondTail) :
    Received firmware hardware
      (Unpacking.all FirmwareConfig.dictionary (.start FirmwareConfig.dictionary .empty first)).2.fields
      (Unpacking.all HardwareConfig.dictionary (.start HardwareConfig.dictionary .empty second)).2.fields := by
  obtain ⟨-, -, -, config⟩ := FirmwareConfig.fields.unpack_cut cutFirst .empty
  obtain ⟨-, -, -, machine⟩ := HardwareConfig.fields.unpack_cut cutSecond .empty
  rw [unpack, FirmwareConfig.registered_fields] at config
  rw [unpack, HardwareConfig.registered_fields] at machine
  exact {
    version := Kind.Holds.latest_eq (n := 8) rfl (config .version)
    modules := Kind.Holds.latest_eq (n := 4) rfl (config .modules)
    pipelines := Kind.Holds.latest_eq (n := 4) rfl (config .maxPipelines)
    instances := Kind.Holds.latest_eq (n := 4) rfl (config .maxInstances)
    gateways := Kind.Holds.latest_eq (n := 4) rfl (machine .gateways)
    cores := Kind.Holds.latest_eq (n := 4) rfl (machine .cores) }

/-- The list of what is missing is the list of what was not received, and in the same order. -/
theorem Received.missing_eq {firmware hardware : List Record} {config : FirmwareConfig} {machine : HardwareConfig}
    (received : Received firmware hardware config machine) :
    Limits.missing config machine = lacking firmware hardware := by
  have absent {α : Type} {needed : Needed} {records : List Record} {value : Option α} {tag : UInt32} [Wire α]
      (same : needed.latest records = value.map (.of tag)) : value.isNone = decide (¬ needed.Among records) := by
    rw [← needed.isNone_latest, same, Option.isNone_map]
  have chosen : lacking firmware hardware = (required firmware hardware).filterMap fun each =>
      if decide (¬ each.1.Among each.2) = true then some each.1.label else none := by
    rw [lacking, ← List.filterMap_eq_map, List.filterMap_filter]
    rfl
  rw [chosen, Limits.missing, absent received.version, absent received.modules, absent received.pipelines,
    absent received.instances, absent received.gateways, absent received.cores]
  rfl

variable {σ : Type}

/-- What has to become of an attempt, by the complete records of the two replies. -/
def Verdict (firmware hardware : List Record) : Except Fault Connection → Prop
  | .ok connection => Complete firmware hardware ∧ connection.limits.Taken firmware hardware
  | .error fault =>
    ¬ Complete firmware hardware ∧ fault = .firmware (.incomplete (lacking firmware hardware)) ∧
      fault.message =
        "Incomplete firmware configuration, missing: " ++ ", ".intercalate (lacking firmware hardware)

section Steps

variable {ρ : Type} {transport : Transport σ} (dictionary : Dictionary ρ) (fields : ρ) {parameter : BaseParameter}
  {capacity : Nat} {state after : σ}

theorem askTagged_of_ok {reply : List UInt8}
    (answered : transport.query base (.ofBase parameter) capacity state = .ok reply after) :
    askTagged transport dictionary fields parameter capacity state =
      .ok (Unpacking.all dictionary (.start dictionary fields reply)).2.fields after :=
  Action.bind_of_ok (Action.mapError_of_ok answered)

theorem askTagged_of_error {cause : Fault}
    (refused : transport.query base (.ofBase parameter) capacity state = .error cause after) :
    ∃ fault, askTagged transport dictionary fields parameter capacity state = .error fault after ∧
      fault.root = cause.root :=
  ⟨_, Action.bind_of_error (Action.mapError_of_error refused), rfl⟩

end Steps

theorem verdict_of_received {firmware hardware : List Record} {config : FirmwareConfig} {machine : HardwareConfig}
    (received : Received firmware hardware config machine) (after : σ) :
    ∃ outcome, Action.run (match Limits.of config machine with
        | .ok limits => pure ⟨config, machine, limits⟩
        | .error cause => throw (.firmware cause) : Action Fault σ Connection) after = (outcome, after) ∧
      Verdict firmware hardware outcome := by
  obtain ⟨limits, found, nothing, version, modules, pipelines, instances, gateways, cores⟩ | ⟨refused, something⟩ :=
    Limits.of_cases config machine
  · rw [received.missing_eq, lacking_eq_nil_iff] at nothing
    refine ⟨.ok ⟨config, machine, limits⟩, by rw [found]; rfl, nothing, ?_⟩
    exact {
      version := by rw [received.version, version]; rfl
      modules := by rw [received.modules, modules]; rfl
      pipelines := by rw [received.pipelines, pipelines]; rfl
      instances := by rw [received.instances, instances]; rfl
      gateways := by rw [received.gateways, gateways]; rfl
      cores := by rw [received.cores, cores]; rfl }
  · rw [received.missing_eq] at refused something
    rw [ne_eq, lacking_eq_nil_iff] at something
    exact ⟨.error _, by rw [refused]; rfl, something, rfl, rfl⟩

/-- A question that fails ends the attempt with the fault of the transport in some context. After two replies their
complete records decide. -/
theorem establish_verdict (transport : Transport σ) (state : σ) :
    match transport.query base (.ofBase .firmwareConfig) configReplySize state with
    | .error cause after => ∃ fault, establish transport state = .error fault after ∧ fault.root = cause.root
    | .ok first between =>
      match transport.query base (.ofBase .hardwareConfig) configReplySize between with
      | .error cause after => ∃ fault, establish transport state = .error fault after ∧ fault.root = cause.root
      | .ok second after =>
        ∃ firmware hardware firstTail secondTail, Cut first firmware firstTail ∧ Cut second hardware secondTail ∧
          ∃ outcome, (establish transport).run state = (outcome, after) ∧ Verdict firmware hardware outcome := by
  cases answered : transport.query base (.ofBase .firmwareConfig) configReplySize state with
  | error cause after =>
    obtain ⟨fault, failed, root⟩ := askTagged_of_error FirmwareConfig.dictionary .empty answered
    exact ⟨_, Action.bind_of_error (Action.mapError_of_error failed), root⟩
  | ok first between =>
    have asked := askTagged_of_ok FirmwareConfig.dictionary .empty answered
    have begun : establish transport state = _ := Action.bind_of_ok (Action.mapError_of_ok asked)
    dsimp only
    cases again : transport.query base (.ofBase .hardwareConfig) configReplySize between with
    | error cause after =>
      obtain ⟨fault, failed, root⟩ := askTagged_of_error HardwareConfig.dictionary .empty again
      exact ⟨_, begun.trans (Action.bind_of_error (Action.mapError_of_error failed)), root⟩
    | ok second after =>
      have askedAgain := askTagged_of_ok HardwareConfig.dictionary .empty again
      have ended : establish transport state = _ :=
        begun.trans (Action.bind_of_ok (Action.mapError_of_ok askedAgain))
      obtain ⟨firmware, firstTail, cutFirst⟩ := exists_cut first
      obtain ⟨hardware, secondTail, cutSecond⟩ := exists_cut second
      obtain ⟨outcome, run, verdict⟩ := verdict_of_received (received_of_cut cutFirst cutSecond) after
      refine ⟨firmware, hardware, firstTail, secondTail, cutFirst, cutSecond, outcome, ?_, verdict⟩
      rw [Action.run] at run ⊢
      rw [ended]
      exact run

/-- A version of one byte is none, and a limit without bytes does not take back the one before it. -/
example : lacking [⟨0, [1]⟩, .of 12 (1 : UInt32), .of 9 (8 : UInt32), ⟨9, []⟩] [.of 1 (2 : UInt32)] =
    ["fw version", "max module instance count", "gateway count"] := by
  decide

end Connection

end DspInspector

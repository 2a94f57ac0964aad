import DspInspector.Load.Report
import DspInspector.Proofs.Control.Establishing
import DspInspector.Proofs.Control.Transcripts

/-!
# Room for a list

A list of the firmware is read with room for its count and for as many entries as the firmware says there may be. These
numbers are words that nothing bounds. Every product fits the addresses of the host, and the room is the size of a full
list; but the number of measurements is a sum of two such words, and is itself kept in a word. Where the word can hold
the sum the room is exact, and where it cannot the program stops before it has asked for anything
(`Table.rooms_exact_iff_sum_fits`).
-/

namespace DspInspector

variable {σ α β : Type}

/-! ## The sum of two words -/

namespace Limits

variable {limits : Limits}

/-- A limit on measurements is the exact sum. -/
theorem measurements_eq_ok_iff {sum : UInt32} :
    limits.measurements = .ok sum ↔ sum.toNat = limits.instances.toNat + limits.cores.toNat := by
  have bound : sum.toNat < UInt32.size := sum.toNat_lt
  by_cases fits : limits.instances.toNat + limits.cores.toNat < UInt32.size
  · have exact : (UInt32.ofNat (limits.instances.toNat + limits.cores.toNat)).toNat = _ :=
      UInt32.toNat_ofNat_of_lt fits
    rw [measurements_of_lt fits, Except.ok.injEq, ← UInt32.toNat_inj, exact]
    exact eq_comm
  · rw [measurements_of_le (Nat.le_of_not_lt fits)]
    refine iff_of_false nofun ?_
    omega

/-- There is none exactly if the word cannot hold the sum. -/
theorem measurements_eq_error_iff :
    limits.measurements = .error .overflow ↔ UInt32.size ≤ limits.instances.toNat + limits.cores.toNat := by
  by_cases fits : limits.instances.toNat + limits.cores.toNat < UInt32.size
  · rw [measurements_of_lt fits]
    exact iff_of_false nofun (Nat.not_le_of_lt fits)
  · have exceeds := Nat.le_of_not_lt fits
    exact iff_of_true (measurements_of_le exceeds) exceeds

end Limits

/-! ## Reading once -/

/-- Between two moments a parameter of the base firmware was read with this room, and nothing else was. -/
def Transcript.ReadOnce (parameter : ParameterId) (room : Nat) (before after : Transcript σ) : Prop :=
  ∃ reply, after.exchanges = before.exchanges ++ [⟨Connection.base, parameter, room, reply⟩]

open Transcript

/-- However the action ends, it reads the parameter once and nothing else. -/
def Reads (action : Action Fault (Transcript σ) α) (parameter : ParameterId) (room : Nat) : Prop :=
  ∀ transcript, action.Yields transcript (fun _ => ReadOnce parameter room transcript)
    fun _ => ReadOnce parameter room transcript

section Reads

variable {action : Action Fault (Transcript σ) α} {parameter : ParameterId} {room : Nat}

/-- What comes after the reply reads nothing more. -/
theorem Reads.bind {next : α → Action Fault (Transcript σ) β} (reads : Reads action parameter room)
    (quiet : ∀ value, Action.Keeps Transcript.exchanges (next value)) : Reads (action >>= next) parameter room := by
  intro transcript
  rw [Action.yields_bind]
  refine (reads transcript).mono (fun value between read => ?_) fun _ _ read => read
  obtain ⟨reply, grown⟩ := read
  refine (quiet value between).mono (fun _ after same => ?_) fun _ after same => ?_
  · exact ⟨reply, same.trans grown⟩
  · exact ⟨reply, same.trans grown⟩

variable (transport : Transport σ)

theorem reads_ask (parameter : ParameterId) (room : Nat) :
    Reads (Connection.ask transport.transcribed Connection.base parameter room) parameter room := by
  intro transcript
  rw [Connection.ask, Action.yields_mapError]
  unfold Action.Yields Transport.transcribed Transcript.noting
  dsimp only
  cases transport.query Connection.base parameter room transcript.state with
  | ok reply after => exact ⟨_, rfl⟩
  | error cause after => exact ⟨_, rfl⟩

theorem reads_askValue [Wire α] (parameter : ParameterId) (room : Nat) :
    Reads (Connection.askValue α transport.transcribed Connection.base parameter room) parameter room :=
  (reads_ask transport parameter room).bind fun _ => Action.keeps_ofExcept _

end Reads

/-! ## The four lists -/

/-- The lists that the firmware has. -/
inductive Table where
  | modules
  | pipelines
  | gateways
  | measurements

namespace Table

/-- How an entry travels. -/
@[reducible] def entry : Table → Layout
  | modules => .moduleEntry
  | pipelines => .u32
  | gateways => .gateway
  | measurements => .measurement

/-- The parameter that is read. -/
def parameter : Table → BaseParameter
  | modules => .moduleTable
  | pipelines => .pipelineList
  | gateways => .gateways
  | measurements => .measurements

/-- The bytes of an entry. -/
def entrySize : Table → Nat
  | modules => 116
  | pipelines => 4
  | gateways => 8
  | measurements => 16

theorem size_entry (table : Table) : table.entry.wire.size = some table.entrySize := by cases table <;> rfl

/-- The room for a list of so many entries. -/
def room (table : Table) (count : Nat) : Nat := 4 + count * table.entrySize

/-- How many entries there may be, where the firmware says so. -/
def declared (firmware : FirmwareConfig) (hardware : HardwareConfig) : Table → Option Nat
  | modules => firmware.modules.map UInt32.toNat
  | pipelines => firmware.maxPipelines.map UInt32.toNat
  | gateways => hardware.gateways.map UInt32.toNat
  | measurements => do
    let instances ← firmware.maxInstances
    let cores ← hardware.cores
    pure (instances.toNat + cores.toNat)

/-- Reads the list, which may have so many entries. -/
def fetchUpTo (transport : Transport σ) (limit : UInt32) : (table : Table) → Action Fault σ (List table.entry.Value)
  | modules => Connection.moduleEntriesOf transport limit
  | pipelines => Connection.pipelineIdsUpTo transport limit
  | gateways => Connection.gatewaysUpTo transport limit
  | measurements => Connection.measurementsUpTo transport limit

/-- Reads the list, which may have as many entries as the firmware said. -/
def fetch (connection : Connection) (transport : Transport σ) :
    (table : Table) → Action Fault σ (List table.entry.Value)
  | modules => connection.moduleEntries transport
  | pipelines => connection.pipelineIds transport
  | gateways => connection.gateways transport
  | measurements => connection.measurements transport

theorem room_lt (table : Table) {count : Nat} (word : count < UInt32.size) : table.room count < 2 ^ 64 := by
  have small : table.entrySize ≤ 116 := by cases table <;> decide
  have product : count * table.entrySize ≤ 2 ^ 32 * 116 := Nat.mul_le_mul (Nat.le_of_lt word) small
  unfold room
  omega

/-- The room is what a list with so many entries needs. -/
theorem length_write (table : Table) (items : List table.entry.Value) :
    (Wire.write items).length = table.room items.length :=
  have := table.entry.measured
  Wire.length_write_list table.size_entry items

/-- Every list is read once, with room for the entries that it may have. -/
theorem reads_fetchUpTo (table : Table) (transport : Transport σ) (limit : UInt32) :
    Reads (table.fetchUpTo transport.transcribed limit) (.ofBase table.parameter) (table.room limit.toNat) := by
  cases table with
  | modules =>
    refine (reads_askValue transport _ _).bind fun entries => ?_
    split
    · exact Action.keeps_pure entries
    · exact Action.keeps_throw _
  | pipelines => exact (reads_askValue transport _ _).bind fun _ => Action.keeps_ofExcept _
  | gateways => exact (reads_askValue transport _ _).bind fun _ => Action.keeps_ofExcept _
  | measurements => exact (reads_askValue transport _ _).bind fun _ => Action.keeps_ofExcept _

/-- How many entries there may be by the limits. -/
def count (limits : Limits) : Table → Nat
  | modules => limits.modules.toNat
  | pipelines => limits.pipelines.toNat
  | gateways => limits.gateways.toNat
  | measurements => limits.instances.toNat + limits.cores.toNat

theorem count_lt {table : Table} (limits : Limits) (single : table ≠ measurements) :
    table.count limits < UInt32.size := by
  cases table with
  | modules => exact limits.modules.toNat_lt
  | pipelines => exact limits.pipelines.toNat_lt
  | gateways => exact limits.gateways.toNat_lt
  | measurements => exact absurd rfl single

/-- A count that is a word is the limit that the list is read with. -/
theorem fetch_of_lt (table : Table) {connection : Connection} (transport : Transport σ)
    (fits : table.count connection.limits < UInt32.size) :
    table.fetch connection transport = table.fetchUpTo transport (.ofNat (table.count connection.limits)) := by
  cases table with
  | modules | pipelines | gateways =>
    rw [fetch, fetchUpTo, count, UInt32.ofNat_toNat]
    rfl
  | measurements => exact Connection.measurements_of_lt transport fits

/-- Without a limit on measurements nothing is asked, neither for them nor for a report on them. -/
theorem stops_of_le {connection : Connection} (exceeds : UInt32.size ≤ measurements.count connection.limits)
    (transport : Transport σ) (state : σ) :
    measurements.fetch connection transport state = .error .overflow state ∧
      LoadReport.fetch connection transport state = .error .overflow state := by
  constructor
  · exact congrFun (Connection.measurements_of_le transport exceeds) state
  · rw [LoadReport.fetch, Limits.measurements_of_le exceeds]
    rfl

theorem reads_fetch (table : Table) {connection : Connection} (transport : Transport σ)
    (fits : table.count connection.limits < UInt32.size) :
    Reads (table.fetch connection transport.transcribed) (.ofBase table.parameter)
      (table.room (table.count connection.limits)) := by
  have exact : (UInt32.ofNat (table.count connection.limits)).toNat = _ := UInt32.toNat_ofNat_of_lt fits
  have reads := table.reads_fetchUpTo transport (.ofNat (table.count connection.limits))
  rwa [exact, ← fetch_of_lt table transport.transcribed fits] at reads

variable {firmware : FirmwareConfig} {hardware : HardwareConfig} {limits : Limits}

/-- The limits of an accepted configuration are what it declares. -/
theorem declared_of_accepted (accepted : Limits.of firmware hardware = .ok limits) (table : Table) :
    table.declared firmware hardware = some (table.count limits) := by
  obtain ⟨found, same, -, -, modulesIs, pipelinesIs, instancesIs, gatewaysIs, coresIs⟩ | ⟨refused, -⟩ :=
    Limits.of_cases firmware hardware
  · cases accepted.symm.trans same
    cases table with
    | modules => exact congrArg (Option.map UInt32.toNat) modulesIs
    | pipelines => exact congrArg (Option.map UInt32.toNat) pipelinesIs
    | gateways => exact congrArg (Option.map UInt32.toNat) gatewaysIs
    | measurements =>
      rw [declared, instancesIs, coresIs]
      rfl
  · cases accepted.symm.trans refused

/-- What an accepted configuration declares is what its lists are read with. A limit on measurements is the exact sum.
There is none if the sum exceeds a word; then the program stops before it asks for the measurements or for what a report
on them needs. All other counts are words, and a count that is a word gives an exact room, which is that of a full list
and fits an address of the host; with this room the list is read once. Any word that is chosen as a limit instead gives
the room for so many entries. -/
theorem rooms_exact_iff_sum_fits (accepted : Limits.of firmware hardware = .ok limits) :
    (∀ word, limits.measurements = .ok word ↔ measurements.declared firmware hardware = some word.toNat) ∧
    (limits.measurements = .error .overflow ↔ UInt32.size ≤ measurements.count limits) ∧
    (UInt32.size ≤ measurements.count limits → ∀ (σ : Type) (transport : Transport σ) (state : σ),
      measurements.fetch ⟨firmware, hardware, limits⟩ transport state = .error .overflow state ∧
      LoadReport.fetch ⟨firmware, hardware, limits⟩ transport state = .error .overflow state) ∧
    ∀ table : Table,
      table.declared firmware hardware = some (table.count limits) ∧
      (table ≠ measurements → table.count limits < UInt32.size) ∧
      (∀ items : List table.entry.Value, (Wire.write items).length = table.room items.length) ∧
      ∀ (σ : Type) (transport : Transport σ),
        (table.count limits < UInt32.size → table.room (table.count limits) < 2 ^ 64 ∧
          Reads (table.fetch ⟨firmware, hardware, limits⟩ transport.transcribed) (.ofBase table.parameter)
            (table.room (table.count limits))) ∧
        ∀ limit : UInt32, table.room limit.toNat < 2 ^ 64 ∧
          Reads (table.fetchUpTo transport.transcribed limit) (.ofBase table.parameter) (table.room limit.toNat) := by
  refine ⟨fun word => ?_, Limits.measurements_eq_error_iff, ?_, fun table => ?_⟩
  · rw [declared_of_accepted accepted, Option.some_inj, Limits.measurements_eq_ok_iff, eq_comm]
    rfl
  · intro exceeds σ transport state
    exact stops_of_le exceeds transport state
  · refine ⟨declared_of_accepted accepted table, count_lt limits, table.length_write, fun σ transport => ⟨?_, ?_⟩⟩
    · intro fits
      exact ⟨table.room_lt fits, table.reads_fetch transport fits⟩
    · intro limit
      exact ⟨table.room_lt limit.toNat_lt, table.reads_fetchUpTo transport limit⟩

/-- A firmware with so many instances, and a little of everything else. -/
def crowded (instances : UInt32) : FirmwareConfig :=
  { FirmwareConfig.empty with
    version := some ⟨1, 2, 3, 4⟩, modules := some 3, maxPipelines := some 8, maxInstances := some instances }

/-- A machine with one core and four gateways. -/
def singleCore : HardwareConfig := { cores := some 1, gateways := some 4 }

/-- The limits of the two. -/
def crowdedLimits (instances : UInt32) : Limits := ⟨⟨1, 2, 3, 4⟩, 3, 8, instances, 4, 1⟩

/-- The largest sum that fits gives the largest room, and it is exact. -/
theorem brim_rooms :
    Limits.of (crowded 0xFFFFFFFE) singleCore = .ok (crowdedLimits 0xFFFFFFFE) ∧
      (crowdedLimits 0xFFFFFFFE).measurements = .ok 0xFFFFFFFF ∧
      Reads (measurements.fetch ⟨crowded 0xFFFFFFFE, singleCore, crowdedLimits 0xFFFFFFFE⟩
        (Simulation.transport .demo).transcribed) (.ofBase .measurements) 68719476724 := by
  have accepted : Limits.of (crowded 0xFFFFFFFE) singleCore = .ok (crowdedLimits 0xFFFFFFFE) := rfl
  obtain ⟨exact, -, -, rooms⟩ := rooms_exact_iff_sum_fits accepted
  obtain ⟨-, -, -, reads⟩ := rooms measurements
  have fits : measurements.count (crowdedLimits 0xFFFFFFFE) < UInt32.size := by decide
  exact ⟨accepted, (exact 0xFFFFFFFF).mpr rfl, ((reads _ (Simulation.transport .demo)).1 fits).2⟩

/-- One instance more, and the sum is gone: the program stops, and nothing has been asked. -/
theorem sum_overflows :
    Limits.of (crowded 0xFFFFFFFF) singleCore = .ok (crowdedLimits 0xFFFFFFFF) ∧
      measurements.declared (crowded 0xFFFFFFFF) singleCore = some (2 ^ 32) ∧
      (∀ word, (crowdedLimits 0xFFFFFFFF).measurements ≠ .ok word) ∧
      (measurements.fetch ⟨crowded 0xFFFFFFFF, singleCore, crowdedLimits 0xFFFFFFFF⟩
        (Simulation.transport .demo).transcribed).run ⟨.fresh, []⟩ = (.error .overflow, ⟨.fresh, []⟩) := by
  have exceeds : UInt32.size ≤ measurements.count (crowdedLimits 0xFFFFFFFF) := by decide
  refine ⟨rfl, rfl, ?_, rfl⟩
  intro word limit
  rw [Limits.measurements_of_le exceeds] at limit
  cases limit

end Table

end DspInspector

import DspInspector.Graph.Gateway
import DspInspector.Proofs.Wire.Sizes

/-!
# What a declared size promises

Declared sizes decide which records are accepted and how much room a reply is given, so they have to be right in
both directions. `Layout.declared` is the table of them. A value of a declared size is written in that many bytes
(`Layout.measured`), and its reader wants exactly that many (`Extent`): with fewer it runs out, with enough it
succeeds whatever they say. Both go through the pieces of a format, so no record needs an argument of its own.
-/

namespace DspInspector

namespace Decoder

variable {α β : Type}

/-- The reader takes so many bytes and succeeds when they are there. -/
structure Extent (decoder : Decoder α) (n : Nat) : Prop where
  enough {bytes : List UInt8} (available : n ≤ bytes.length) : ∃ value, decoder bytes = .ok value (bytes.drop n)
  short {bytes : List UInt8} (missing : bytes.length < n) : decoder bytes = .error .endOfStream []

theorem extent_pure (value : α) : Extent (pure value : Decoder α) 0 :=
  ⟨fun _ => ⟨value, rfl⟩, fun missing => absurd missing (Nat.not_lt_zero _)⟩

theorem extent_take (n : Nat) : Extent (take n) n :=
  ⟨fun available => ⟨_, take_of_le available⟩, fun missing => take_of_lt missing⟩

theorem Extent.of_ok {decoder : Decoder α} {n : Nat} (extent : Extent decoder n) {bytes rest : List UInt8} {value : α}
    (read : decoder bytes = .ok value rest) : n ≤ bytes.length ∧ rest = bytes.drop n := by
  by_cases available : n ≤ bytes.length
  · obtain ⟨_, whole⟩ := extent.enough available
    exact ⟨available, (EStateM.Result.ok.inj (read.symm.trans whole)).2⟩
  · cases read.symm.trans (extent.short (Nat.lt_of_not_le available))

theorem Extent.of_error {decoder : Decoder α} {n : Nat} (extent : Extent decoder n) {bytes rest : List UInt8}
    {cause : WireError} (failed : decoder bytes = .error cause rest) : bytes.length < n := by
  apply Nat.lt_of_not_le
  intro available
  obtain ⟨_, whole⟩ := extent.enough available
  cases failed.symm.trans whole

theorem Extent.bind {first : Decoder α} {second : α → Decoder β} {m k : Nat} (one : Extent first m)
    (two : ∀ value, Extent (second value) k) : Extent (first >>= second) (m + k) := by
  constructor
  · intro bytes available
    have ahead : m ≤ bytes.length := by omega
    obtain ⟨value, read⟩ := one.enough ahead
    have behind : k ≤ (bytes.drop m).length := by
      rw [List.length_drop]
      omega
    obtain ⟨result, readSecond⟩ := (two value).enough behind
    refine ⟨result, ?_⟩
    rw [bind_ok read, readSecond, List.drop_drop]
  · intro bytes missing
    by_cases available : m ≤ bytes.length
    · obtain ⟨value, read⟩ := one.enough available
      rw [bind_ok read]
      apply (two value).short
      rw [List.length_drop]
      omega
    · exact bind_error (one.short (by omega))

theorem Extent.map {decoder : Decoder α} {n : Nat} (extent : Extent decoder n) (change : α → β) :
    Extent (decoder >>= fun value => pure (change value)) n :=
  extent.bind fun _ => extent_pure _

theorem extent_vector {item : Decoder α} {each : Nat} (extent : Extent item each) :
    ∀ n, Extent (Decoder.vector item n) (each * n)
  | 0 => extent_pure _
  | n + 1 => (extent_vector extent n).bind fun _ => extent.map _

theorem extent_many {item : Decoder α} {each : Nat} (extent : Extent item each) :
    ∀ n, Extent (many item n) (n * each)
  | 0 => by
    rw [Nat.zero_mul]
    exact extent_pure _
  | n + 1 => by
    rw [Nat.add_one_mul, Nat.add_comm (n * each)]
    exact extent.bind fun _ => (extent_many extent n).map _

end Decoder

open Decoder

namespace Wire

variable {α β : Type}

/-- A type whose reader wants the declared size, if there is one. -/
class Plain (α : Type) [Wire α] : Prop where
  extent {n : Nat} (declared : Wire.size α = some n) : Extent (Wire.read : Decoder α) n

theorem plain_word {width : Nat} {ofNat : Nat → α} {toNat : α → Nat} : @Plain α (word width ofNat toNat) := by
  refine @Plain.mk α (word width ofNat toNat) fun {_} declared => ?_
  cases declared
  exact (extent_take width).map _

instance : Plain UInt8 := plain_word
instance : Plain UInt16 := plain_word
instance : Plain UInt32 := plain_word
instance : Plain UInt64 := plain_word

theorem plain_via [Wire β] [plain : Plain β] {into : β → α} {outOf : α → β} : @Plain α (via into outOf) :=
  @Plain.mk α (via into outOf) fun declared => (plain.extent declared).map into

instance : Plain Int8 := plain_via
instance : Plain Int16 := plain_via
instance : Plain Int32 := plain_via
instance : Plain Int64 := plain_via

instance [Wire α] [Wire β] [one : Plain α] [two : Plain β] : Plain (α × β) where
  extent declared := by
    obtain ⟨m, k, first, second, rfl⟩ := of_size_pair declared
    exact (one.extent first).bind fun _ => (two.extent second).map _

instance [Wire α] [item : Plain α] {length : Nat} : Plain (Vector α length) where
  extent declared := by
    obtain ⟨each, sized, rfl⟩ := Option.map_eq_some_iff.mp declared
    exact extent_vector (item.extent sized) length

instance [Wire α] : Plain (List α) := ⟨fun declared => nomatch declared⟩

end Wire

open Wire

instance {κ : Type} [Enumeration κ] : Plain (Coded κ) := plain_via

instance : Plain FirmwareVersion := plain_via
instance : Plain DmaBuffer := plain_via
instance : Plain I2sCapabilities := plain_via
instance : Plain GpdmaCapabilities := plain_via
instance : Plain InstanceId := plain_via
instance : Plain ConnectorId := plain_via
instance : Plain AudioFormat := plain_via
instance : Plain Pin := plain_via
instance : Plain InstanceProps := plain_via
instance : Plain Pipeline := plain_via
instance : Plain ScheduledTask := plain_via
instance : Plain Scheduler := plain_via
instance : Plain CoreSchedule := plain_via
instance : Plain Gateway := plain_via
instance : Plain BankState := plain_via
instance : Plain Segment := plain_via
instance : Plain Measurement := plain_via
instance : Plain ProbePoint := plain_via
instance : Plain MessageHeader := plain_via
instance : Plain TunnelHeader := plain_via

/-- Any bytes of the right number are a hash. -/
instance : Plain Digest where
  extent declared := by
    cases declared
    exact (extent_take Digest.size).map _

instance : Plain ModuleEntry := plain_via
instance : Plain Packet := ⟨fun declared => nomatch declared⟩

namespace Layout

/-- The sizes, in bytes. What holds a list has none, and a packet holds one. -/
def declared : Layout → Option Nat
  | u8 | i8 => some 1
  | u16 | i16 => some 2
  | u32 | i32 => some 4
  | u64 | i64 => some 8
  | enumeration _ => some 4
  | array length item => item.declared.map (· * length)
  | list _ => none
  | instanceId | connectorId | probePoint => some 4
  | firmwareVersion | dmaBuffer | gateway | messageHeader | tunnelHeader => some 8
  | segment => some 12
  | measurement => some 16
  | audioFormat => some 24
  | pin => some 32
  | moduleEntry => some 116
  | i2sCapabilities | gpdmaCapabilities | instanceProps | pipeline | scheduledTask | scheduler | coreSchedule
  | bankState | packet => none

/-- The table says what the formats add up to. -/
theorem size_eq_declared (layout : Layout) : layout.wire.size = layout.declared := by
  induction layout with
  | array length item ih => exact congrArg (Option.map (· * length)) ih
  | _ => rfl

theorem plain (layout : Layout) : Plain layout.Value := by
  induction layout with
  | array length item ih => exact inferInstanceAs (Plain (Vector item.Value length))
  | _ => infer_instance

/-- The reader of a type takes as many bytes as the table says. -/
theorem extent (layout : Layout) {n : Nat} (declared : layout.declared = some n) : Extent layout.wire.read n :=
  layout.plain.extent (layout.size_eq_declared.trans declared)

end Layout

/-! ## From a cursor -/

namespace Cursor

variable {α : Type} {decoder : Decoder α} {cursor : Cursor} {n : Nat}

theorem length_rest (cursor : Cursor) : cursor.rest.length = cursor.remaining := List.length_drop

/-- The cursor behind bytes that are there. -/
theorem before_drop (inside : cursor.position ≤ cursor.buffer.length) (available : n ≤ cursor.remaining) :
    cursor.before (cursor.rest.drop n) = { cursor with position := cursor.position + n } := by
  have stops : cursor.buffer.length - (cursor.rest.drop n).length = cursor.position + n := by
    rw [List.length_drop, length_rest]
    rw [remaining] at available ⊢
    omega
  rw [before, stops]

theorem read_of_enough (extent : Extent decoder n) (inside : cursor.position ≤ cursor.buffer.length)
    (available : n ≤ cursor.remaining) :
    ∃ value, cursor.read decoder = (.ok value, { cursor with position := cursor.position + n }) := by
  obtain ⟨value, read⟩ := extent.enough (cursor.length_rest ▸ available)
  refine ⟨value, ?_⟩
  rw [Cursor.read, read]
  exact congrArg _ (cursor.before_drop inside available)

theorem read_of_short (extent : Extent decoder n) (missing : cursor.remaining < n) :
    cursor.read decoder = (.error .endOfStream, { cursor with position := cursor.buffer.length }) := by
  have read := extent.short (cursor.length_rest ▸ missing)
  rw [Cursor.read, read]
  rfl

end Cursor

/-- The declared sizes are exact, for every type that travels. A value is written in that many bytes, canonical
or not; where so many bytes are left its reader succeeds and stops behind them, and where fewer are left it runs
out of them. The room for a list reply of `k` entries is the length of every such list. -/
theorem declared_sizes_exact :
    (∀ layout : Layout, layout.wire.size = layout.declared) ∧
    (∀ (layout : Layout) (n : Nat), layout.declared = some n →
      (∀ value : layout.Value, (layout.wire.write value).length = n) ∧
      ∀ cursor : Cursor, cursor.position ≤ cursor.buffer.length →
        (n ≤ cursor.remaining →
          ∃ value, cursor.read layout.wire.read = (.ok value, { cursor with position := cursor.position + n })) ∧
        (cursor.remaining < n →
          cursor.read layout.wire.read =
            (.error .endOfStream, { cursor with position := cursor.buffer.length }))) ∧
    (∀ entries : List ModuleEntry, (Wire.write entries).length = ModuleEntry.listSize entries.length) ∧
    (∀ ids : List UInt32, (Wire.write ids).length = Pipeline.idListSize ids.length) ∧
    (∀ gateways : List Gateway, (Wire.write gateways).length = Gateway.listSize gateways.length) ∧
    ∀ items : List Measurement, (Wire.write items).length = Measurement.listSize items.length := by
  refine ⟨Layout.size_eq_declared, ?_, length_write_list rfl, length_write_list rfl, length_write_list rfl,
    length_write_list rfl⟩
  intro layout n declared
  have measured := layout.measured
  have size : layout.wire.size = some n := layout.size_eq_declared.trans declared
  have extent : Extent layout.wire.read n := layout.extent declared
  refine ⟨measured.length_write size, ?_⟩
  intro cursor inside
  exact ⟨cursor.read_of_enough extent inside, cursor.read_of_short extent⟩

/-- A module entry with eight bytes too many in its hash. -/
def overlongEntry : ModuleEntry := { ModuleEntry.named 7 [] with hash := ⟨List.replicate 40 0xAB⟩ }

/-- Its hash is cut; and an entry is read from the last 116 bytes of a buffer, but not from the last 115. -/
theorem overlongEntry_declared_size :
    Layout.moduleEntry.declared = some 116 ∧ (Layout.moduleEntry.wire.write overlongEntry).length = 116 ∧
      (∃ value, (Cursor.mk (List.replicate 120 1) 4).read Layout.moduleEntry.wire.read =
        (.ok value, ⟨List.replicate 120 1, 120⟩)) ∧
      (Cursor.mk (List.replicate 119 1) 4).read Layout.moduleEntry.wire.read =
        (.error .endOfStream, ⟨List.replicate 119 1, 119⟩) := by
  obtain ⟨-, exact, -⟩ := declared_sizes_exact
  obtain ⟨written, reading⟩ := exact .moduleEntry 116 rfl
  obtain ⟨enough, -⟩ := reading (Cursor.mk (List.replicate 120 1) 4) (by decide)
  obtain ⟨-, short⟩ := reading (Cursor.mk (List.replicate 119 1) 4) (by decide)
  exact ⟨rfl, written overlongEntry, enough (by decide), short (by decide)⟩

end DspInspector

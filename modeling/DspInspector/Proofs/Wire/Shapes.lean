import DspInspector.Proofs.Tlv.Sequences
import DspInspector.Proofs.Wire.Tallies

/-!
# The shapes of what travels

Every type that travels has a shape that reads as its format does (`Shaped`). A record of one size is plain, the others
are arrangements of what they hold, and a packet is checked behind its parts. With that every layout has a shape, and
what the shape says of its lists and its checks can be seen from the layout (`Layout.Countable`, `Layout.Checked`).
-/

namespace DspInspector

open Decoder Tallying Wire

namespace Wire

variable {α β : Type}

/-- A type whose reader is put together as a shape says. -/
class Shaped (α : Type) [Wire α] where
  shape : Shape α
  read_shape : shape.read = Wire.read

/-- Values of one size. -/
@[reducible] def shapedOfSize [Wire α] [plain : Plain α] {n : Nat} (declared : Wire.size α = some n) : Shaped α where
  shape := .plain Wire.read n (plain.extent declared)
  read_shape := rfl

/-- Another arrangement of values that have a shape. -/
@[reducible] def shapedVia [Wire β] [shaped : Shaped β] {into : β → α} {outOf : α → β} : @Shaped α (via into outOf) :=
  @Shaped.mk α (via into outOf) (.via into shaped.shape) (congrArg (· >>= fun value => pure (into value)) shaped.read_shape)

instance [Wire α] [Wire β] [one : Shaped α] [two : Shaped β] : Shaped (α × β) where
  shape := .pair one.shape two.shape
  read_shape := by
    rw [Shape.read, one.read_shape, two.read_shape]
    rfl

instance [Wire α] [item : Shaped α] {length : Nat} : Shaped (Vector α length) where
  shape := .vector item.shape length
  read_shape := by
    rw [Shape.read, item.read_shape]
    rfl

instance [Wire α] [item : Shaped α] : Shaped (List α) where
  shape := .list .four item.shape
  read_shape := by
    rw [Shape.read, item.read_shape]
    rfl

end Wire

instance : Shaped UInt8 := shapedOfSize (n := 1) rfl
instance : Shaped UInt16 := shapedOfSize (n := 2) rfl
instance : Shaped UInt32 := shapedOfSize (n := 4) rfl
instance : Shaped UInt64 := shapedOfSize (n := 8) rfl
instance : Shaped Int8 := shapedOfSize (n := 1) rfl
instance : Shaped Int16 := shapedOfSize (n := 2) rfl
instance : Shaped Int32 := shapedOfSize (n := 4) rfl
instance : Shaped Int64 := shapedOfSize (n := 8) rfl
instance {κ : Type} [Enumeration κ] : Shaped (Coded κ) := shapedOfSize (n := 4) rfl
instance : Shaped FirmwareVersion := shapedOfSize (n := 8) rfl
instance : Shaped DmaBuffer := shapedOfSize (n := 8) rfl
instance : Shaped InstanceId := shapedOfSize (n := 4) rfl
instance : Shaped ConnectorId := shapedOfSize (n := 4) rfl
instance : Shaped AudioFormat := shapedOfSize (n := 24) rfl
instance : Shaped Pin := shapedOfSize (n := 32) rfl
instance : Shaped Gateway := shapedOfSize (n := 8) rfl
instance : Shaped Segment := shapedOfSize (n := 12) rfl
instance : Shaped ModuleEntry := shapedOfSize (n := 116) rfl
instance : Shaped Measurement := shapedOfSize (n := 16) rfl
instance : Shaped ProbePoint := shapedOfSize (n := 4) rfl
instance : Shaped MessageHeader := shapedOfSize (n := 8) rfl
instance : Shaped TunnelHeader := shapedOfSize (n := 8) rfl
instance : Shaped I2sCapabilities := shapedVia
instance : Shaped GpdmaCapabilities := shapedVia
instance : Shaped InstanceProps := shapedVia
instance : Shaped Pipeline := shapedVia
instance : Shaped ScheduledTask := shapedVia
instance : Shaped Scheduler := shapedVia
instance : Shaped CoreSchedule := shapedVia
instance : Shaped BankState := shapedVia

namespace Packet

/-- The sync word is checked where it stands, and the sum behind all else. -/
def shape : Shape Packet :=
  let sync : Shape Unit := .check
    (fun found => if found = syncWord then .ok () else .error (.syncWord syncWord found)) (Shaped.shape : Shape UInt32)
  let fields : Shape (ProbePoint × UInt32 × UInt32 × UInt32 × List UInt8) := Shaped.shape
  let sum : Shape UInt64 := Shaped.shape
  .check (fun (_, (point, format, clockHigh, clockLow, data), found) =>
      let packet : Packet := { point, format, clockHigh, clockLow, data }
      if found = packet.checksum then .ok packet else .error (.checksum packet.checksum found packet.text))
    (.pair sync (.pair fields sum))

end Packet

instance : Shaped Packet where
  shape := Packet.shape
  read_shape := by
    -- the shape reads the sum with the fields, the reader reads it behind them
    show _ = (Packet.readSync >>= _)
    simp only [Packet.shape, Packet.readSync, Shape.read, Shaped.read_shape, bind_assoc, pure_bind, accept_ite]

namespace Layout

instance shaped : (layout : Layout) → Shaped layout.Value
  | array length item =>
    let _ := item.shaped
    inferInstanceAs (Shaped (Vector item.Value length))
  | list item =>
    let _ := item.shaped
    inferInstanceAs (Shaped (List item.Value))
  | u8 | u16 | u32 | u64 | i8 | i16 | i32 | i64 | enumeration _ => inferInstance
  | firmwareVersion | dmaBuffer | i2sCapabilities | gpdmaCapabilities | instanceId | connectorId => inferInstance
  | audioFormat | pin | instanceProps | pipeline | scheduledTask | scheduler | coreSchedule | gateway => inferInstance
  | bankState | segment | moduleEntry | measurement | probePoint | packet | messageHeader | tunnelHeader => inferInstance

def shape (layout : Layout) : Shape layout.Value := layout.shaped.shape

/-- The layouts with a check somewhere, which are those with a packet. -/
def Checked : Layout → Prop
  | array _ item => item.Checked
  | list item => item.Checked
  | packet => True
  | _ => False

/-- The layouts whose lists can be held against their bytes: every element takes some, and none is refused for what it
says. -/
def Countable : Layout → Prop
  | array _ item => item.Countable
  | list item => item.TakesBytes ∧ ¬ item.Checked ∧ item.Countable
  | _ => True

theorem least_shape_pos (layout : Layout) (takes : layout.TakesBytes) : 0 < layout.shape.least := by
  induction layout with
  | array length item ih => exact Nat.mul_pos takes.1 (ih takes.2)
  | enumeration | list => exact Nat.succ_pos 3
  | _ => decide

theorem checked_of_shape (layout : Layout) (checks : layout.shape.checks = true) : layout.Checked := by
  induction layout with
  | array length item ih => exact ih checks
  | list item ih => exact ih checks
  | packet => trivial
  | _ => cases checks

theorem countable_shape (layout : Layout) (countable : layout.Countable) : layout.shape.countable = true := by
  induction layout with
  | array length item ih => exact ih countable
  | list item ih =>
    obtain ⟨takes, unchecked, countable⟩ := countable
    have some : 0 < item.shape.least := item.least_shape_pos takes
    have passes : item.shape.checks = false := Bool.eq_false_iff.mpr fun checks => unchecked (item.checked_of_shape checks)
    show (decide (0 < item.shape.least) && !item.shape.checks && item.shape.countable) = true
    rw [decide_eq_true some, passes, ih countable]
    rfl
  | _ => rfl

/-- Values of one size hold no list. -/
theorem keeps_tally (layout : Layout) {size : Nat} (declared : layout.declared = some size) :
    Action.Keeps Prod.snd layout.shape.tallied := by
  induction layout generalizing size with
  | array length item ih =>
    obtain ⟨each, sized, -⟩ := Option.map_eq_some_iff.mp declared
    exact keeps_vector (ih sized) length
  | list | i2sCapabilities | gpdmaCapabilities | instanceProps | pipeline | scheduledTask | scheduler | coreSchedule
  | bankState | packet => cases declared
  | _ => exact keeps_quiet _

end Layout

end DspInspector

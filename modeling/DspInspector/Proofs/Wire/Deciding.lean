import DspInspector.Proofs.Wire.Layout
import Mathlib.Tactic.MkIffOfInductiveProp

/-!
# Telling canonical values

Whether a value is canonical can be computed, for every layout. Of a code it is enough to see what is read back.
-/

namespace DspInspector

instance {α : Type} (values : List α) : Decidable (Wire.Fits values) :=
  inferInstanceAs (Decidable (values.length < UInt32.size))

/-! ## Codes -/

/-- A code is canonical when it is read back as it is. -/
theorem Coded.canonical_iff {κ : Type} [Enumeration κ] [Lawful κ] {value : Coded κ} :
    value.Canonical ↔ Coded.ofRaw value.raw = value := by
  refine ⟨Coded.ofRaw_raw, fun same => ?_⟩
  cases value with
  | known member => trivial
  | unknown raw =>
    rintro member rfl
    cases (Lawful.ofRaw_code member).symm.trans same

instance {κ : Type} [Enumeration κ] [Lawful κ] [DecidableEq κ] (value : Coded κ) : Decidable value.Canonical :=
  decidable_of_iff _ Coded.canonical_iff.symm

instance (name : EnumerationName) : DecidableEq name.Member := by
  cases name <;> infer_instance

/-! ## Records -/

attribute [mk_iff] AudioFormat.Canonical Pin.Canonical InstanceProps.Canonical Pipeline.Canonical Scheduler.Canonical
  CoreSchedule.Canonical BankState.Canonical GpdmaCapabilities.Canonical

instance (format : AudioFormat) : Decidable format.Canonical :=
  decidable_of_iff _ (AudioFormat.canonical_iff format).symm

instance (pin : Pin) : Decidable pin.Canonical := decidable_of_iff _ (Pin.canonical_iff pin).symm

instance (props : InstanceProps) : Decidable props.Canonical :=
  decidable_of_iff _ (InstanceProps.canonical_iff props).symm

instance (pipeline : Pipeline) : Decidable pipeline.Canonical :=
  decidable_of_iff _ (Pipeline.canonical_iff pipeline).symm

instance (task : ScheduledTask) : Decidable task.Canonical := inferInstanceAs (Decidable (Wire.Fits task.instances))

instance (scheduler : Scheduler) : Decidable scheduler.Canonical :=
  decidable_of_iff _ (Scheduler.canonical_iff scheduler).symm

instance (core : CoreSchedule) : Decidable core.Canonical := decidable_of_iff _ (CoreSchedule.canonical_iff core).symm

instance (bank : BankState) : Decidable bank.Canonical := decidable_of_iff _ (BankState.canonical_iff bank).symm

instance (caps : I2sCapabilities) : Decidable caps.Canonical :=
  inferInstanceAs (Decidable (Wire.Fits caps.controllerAddresses))

instance (caps : GpdmaCapabilities) : Decidable caps.Canonical :=
  decidable_of_iff _ (GpdmaCapabilities.canonical_iff caps).symm

instance (entry : ModuleEntry) : Decidable entry.Canonical :=
  inferInstanceAs (Decidable (entry.hash.bytes.length = Digest.size))

instance (packet : Packet) : Decidable packet.Canonical := inferInstanceAs (Decidable (Wire.Fits packet.data))

/-! ## Layouts -/

namespace Layout

instance decideCanonical : (layout : Layout) → DecidablePred layout.Canonical
  | enumeration _, value => inferInstanceAs (Decidable (Coded.Canonical value))
  | array _ item, values =>
    let _ := item.decideCanonical
    inferInstanceAs (Decidable (∀ value ∈ values, item.Canonical value))
  | list item, values =>
    let _ := item.decideCanonical
    inferInstanceAs (Decidable (Wire.Fits values ∧ ∀ value ∈ values, item.Canonical value))
  | i2sCapabilities, value => inferInstanceAs (Decidable (I2sCapabilities.Canonical value))
  | gpdmaCapabilities, value => inferInstanceAs (Decidable (GpdmaCapabilities.Canonical value))
  | audioFormat, value => inferInstanceAs (Decidable (AudioFormat.Canonical value))
  | pin, value => inferInstanceAs (Decidable (Pin.Canonical value))
  | instanceProps, value => inferInstanceAs (Decidable (InstanceProps.Canonical value))
  | pipeline, value => inferInstanceAs (Decidable (Pipeline.Canonical value))
  | scheduledTask, value => inferInstanceAs (Decidable (ScheduledTask.Canonical value))
  | scheduler, value => inferInstanceAs (Decidable (Scheduler.Canonical value))
  | coreSchedule, value => inferInstanceAs (Decidable (CoreSchedule.Canonical value))
  | bankState, value => inferInstanceAs (Decidable (BankState.Canonical value))
  | moduleEntry, value => inferInstanceAs (Decidable (ModuleEntry.Canonical value))
  | packet, value => inferInstanceAs (Decidable (Packet.Canonical value))
  | u8, _ | u16, _ | u32, _ | u64, _ | i8, _ | i16, _ | i32, _ | i64, _ => .isTrue trivial
  | firmwareVersion, _ | dmaBuffer, _ | instanceId, _ | connectorId, _ | gateway, _ | segment, _ => .isTrue trivial
  | measurement, _ | probePoint, _ | messageHeader, _ | tunnelHeader, _ => .isTrue trivial

end Layout

end DspInspector

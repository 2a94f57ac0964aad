import DspInspector.Probe.Point

/-!
# Probe sessions

A session has one probe per slot, as many slots as the driver has channels. An extraction probe
copies the samples at its point to the host; an injection probe replaces them by samples of the host.
-/

namespace DspInspector

/-- What a probe does at its point. -/
inductive Purpose where
  | extract
  | inject
  /-- Injects and extracts what was injected. -/
  | injectReextract
  deriving DecidableEq

namespace Purpose

/-- The probe sends samples to the host. -/
def extracts : Purpose → Bool
  | .extract => true
  | .inject => false
  | .injectReextract => true

/-- The probe takes samples from the host. -/
def injects : Purpose → Bool
  | .extract => false
  | .inject => true
  | .injectReextract => true

end Purpose

/-- One probe of a session. -/
structure Probe where
  enabled : Bool
  point : ProbePoint
  purpose : Purpose
  deriving DecidableEq

/-- The probe of a slot that is not used. -/
def Probe.disabled : Probe := ⟨false, ⟨0⟩, .extract⟩

instance : Inhabited Probe := ⟨Probe.disabled⟩

/-- The slots of the enabled probes by direction; a probe that does both stands in both lists. -/
structure ActiveSlots where
  extraction : List Nat
  injection : List Nat
  deriving DecidableEq

namespace ActiveSlots

/-- The slots whose probe has a property, in ascending order. -/
def slotsWhere (wanted : Probe → Bool) (probes : List Probe) : List Nat :=
  (probes.zipIdx.filter fun entry => wanted entry.1).map (·.2)

/-- The active slots of a session. -/
def of (probes : List Probe) : ActiveSlots where
  extraction := slotsWhere (fun probe => probe.enabled && probe.purpose.extracts) probes
  injection := slotsWhere (fun probe => probe.enabled && probe.purpose.injects) probes

end ActiveSlots

end DspInspector

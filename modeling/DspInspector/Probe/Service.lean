import DspInspector.Control.Connection
import DspInspector.Probe.Prober

/-!
# The probe service

The service keeps the session that the user edits. When the session is started, it first asks the
firmware for the sample size of every pin that samples are injected into, so that a failure there
does not touch the driver.
-/

namespace DspInspector

/-- The size of a sample at a probe point. -/
def ProbePoint.sampleSize {σ : Type} (transport : Transport σ) (point : ProbePoint) :
    Action Fault σ Nat := do
  let props ← Connection.instanceProps transport ⟨point.moduleId.toUInt16, point.instanceId.toUInt16⟩
  let pins ← Action.ofExcept <|
    match point.type with
    | .known .input => .ok props.inputPins
    | .known .output => .ok props.outputPins
    | other => .error (Fault.probe (.unsupportedPinType other))
  match pins[point.index.toNat]? with
  | none => throw (.probe (.invalidPinIndex point.index pins.length))
  | some pin =>
    match pin.format.sampleBytes with
    | none => throw (.probe (.unsupportedBitDepth pin.format.validBitDepth.toNat))
    | some size => pure size

/-- The sample sizes of some slots of a session. -/
def sampleSizesOf {σ : Type} (transport : Transport σ) (probes : List Probe) :
    List Nat → SampleSizes → Action Fault σ SampleSizes
  | [], sizes => pure sizes
  | slot :: slots, sizes => do
    let size ← (probes.getD slot Probe.disabled).point.sampleSize transport
    sampleSizesOf transport probes slots (sizes.insert slot size)

/-- The sample size of every enabled injection probe. -/
def injectionSampleSizes {σ : Type} (transport : Transport σ) (probes : List Probe) :
    Action Fault σ SampleSizes :=
  sampleSizesOf transport probes (ActiveSlots.of probes).injection .empty

/-- The session that is edited, next to the prober and the way to the firmware. -/
structure ProbeService (σ δ : Type) where
  firmware : σ
  prober : Prober δ
  probes : List Probe

namespace ProbeService

variable {σ δ : Type}

/-- A service with every probe disabled. -/
def create (firmware : σ) (prober : Prober δ) : ProbeService σ δ where
  firmware
  prober
  probes := List.replicate prober.slots Probe.disabled

/-- Changes the probe of a slot. -/
def configure (slot : Nat) (probe : Probe) : Action Fault (ProbeService σ δ) Unit := fun service =>
  if slot < service.probes.length then
    .ok () { service with probes := service.probes.set slot probe }
  else .error (.probe (.invalidSlot slot)) service

/-- The probe of a slot. -/
def configuration (service : ProbeService σ δ) (slot : Nat) : Except Fault Probe :=
  match service.probes[slot]? with
  | some probe => .ok probe
  | none => .error (.probe (.invalidSlot slot))

/-- An action on the prober. -/
def onProber {α : Type} (action : Action ProbeError (Prober δ) α) : Action Fault (ProbeService σ δ) α :=
  Action.onPart ProbeService.prober (fun prober service => { service with prober })
    (Action.mapError .probe action)

/-- A question to the firmware. -/
def onFirmware {α : Type} (action : Action Fault σ α) : Action Fault (ProbeService σ δ) α :=
  Action.onPart ProbeService.firmware (fun firmware service => { service with firmware }) action

/-- Starts or stops the session. -/
def setActive (transport : Transport σ) (driver : ProbeDevice δ) (active : Bool) :
    Action Fault (ProbeService σ δ) Unit := do
  if active then do
    let service ← get
    let sizes ← onFirmware (injectionSampleSizes transport service.probes)
    onProber (Prober.configure driver service.probes sizes)
  onProber (Prober.setActive driver active)

/-- Whether the session is streaming. -/
def isActive (driver : ProbeDevice δ) : Action Fault (ProbeService σ δ) Bool :=
  onProber (Prober.isActive driver)

end ProbeService

end DspInspector

import DspInspector.Proofs.Probe.Honest

/-!
# Drivers with a ledger

Any driver can be given a ledger, in which every success that matters to a session is noted: what each
channel was told last, and how often the extraction stream was opened. The driver does not notice
(`Honest.ledger`).
-/

namespace DspInspector

open DspInspector.Action

variable {δ ω ε α : Type}

/-- The state of a driver and what was done to it with success. -/
structure Ledger (δ : Type) where
  device : δ
  /-- The probe that a channel was programmed with last. -/
  told : Flow → Nat → Option Probe
  /-- How often the extraction stream was opened. -/
  streams : Nat

namespace Ledger

def start (device : δ) : Ledger δ := ⟨device, fun _ _ => none, 0⟩

/-- An action of the driver that is not noted. -/
def unnoted (action : Action ε δ α) : Action ε (Ledger δ) α :=
  Action.onPart Ledger.device (fun device ledger => { ledger with device }) action

/-- Notes that a channel was programmed. -/
def program (flow : Flow) (channel : Nat) (probe : Probe) (ledger : Ledger δ) : Ledger δ :=
  { ledger with
    told other place := if other = flow ∧ place = channel then some probe else ledger.told other place }

theorem keeps_unnoted {view : Ledger δ → ω} (blind : ∀ ledger device, view { ledger with device } = view ledger)
    (action : Action ε δ α) : Keeps view (unnoted action) :=
  fun ledger => yields_onPart.mpr (yields_of_forall (fun _ device => blind ledger device) fun _ device =>
    blind ledger device)

end Ledger

/-- The driver with a ledger. -/
def ProbeDevice.ledger (driver : ProbeDevice δ) : ProbeDevice (Ledger δ) where
  channels flow ledger := driver.channels flow ledger.device
  stage := Ledger.unnoted driver.stage
  move source target := Ledger.unnoted (driver.move source target)
  program flow channel probe := do
    Ledger.unnoted (driver.program flow channel probe)
    modify (Ledger.program flow channel probe)
  openExtraction := do
    Ledger.unnoted driver.openExtraction
    modify fun ledger => { ledger with streams := ledger.streams + 1 }
  openInjection channel := do
    let sink ← Ledger.unnoted (driver.openInjection channel)
    pure ⟨sink.size, fun bytes => Ledger.unnoted (sink.write bytes)⟩

namespace ProbeDevice

variable {driver : ProbeDevice δ} {stageOf : δ → Stage}

/-- Opening an injection stream leaves the notes as they are, and so does writing to it. -/
theorem injectionKeeps_ledger {view : Ledger δ → ω}
    (blind : ∀ ledger device, view { ledger with device } = view ledger) :
    driver.ledger.InjectionKeeps view := by
  intro channel ledger
  have opened := Ledger.keeps_unnoted blind (driver.openInjection channel) ledger
  refine yields_bind.mpr (opened.mono (fun sink after kept => ?_) fun _ _ kept => kept)
  exact ⟨kept, fun bytes => Ledger.keeps_unnoted blind (sink.write bytes)⟩

/-- Programming a channel is not opening a stream. -/
theorem keeps_streams_program (driver : ProbeDevice δ) (flow : Flow) (channel : Nat) (probe : Probe) :
    Keeps Ledger.streams (driver.ledger.program flow channel probe) :=
  (Ledger.keeps_unnoted (fun _ _ => rfl) (driver.program flow channel probe)).bind fun _ _ => rfl

/-- With a ledger a driver is as honest as without. -/
theorem Honest.ledger (honest : driver.Honest stageOf) :
    driver.ledger.Honest (stageOf ∘ Ledger.device) where
  stage ledger := yields_onPart.mpr (honest.stage ledger.device)
  move source target ledger := yields_onPart.mpr (honest.move source target ledger.device)
  program flow channel probe ledger :=
    yields_bind.mpr (yields_onPart.mpr (honest.program flow channel probe ledger.device))
  openExtraction ledger := yields_bind.mpr (yields_onPart.mpr (honest.openExtraction ledger.device))
  openInjection channel ledger := by
    refine yields_bind.mpr (yields_onPart.mpr ?_)
    refine (honest.openInjection channel ledger.device).mono (fun sink device given => ?_) fun _ _ kept => kept
    exact ⟨given.1, fun bytes ledger => yields_onPart.mpr (given.2 bytes ledger.device)⟩

end ProbeDevice

end DspInspector

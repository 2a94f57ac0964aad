import DspInspector.Probe.Scripted
import DspInspector.Proofs.Probe.Honest

/-!
# Scripted drivers are honest

Whatever its script lets fail, a scripted driver tells the stage it was last moved to (`scripted_honest`).
-/

namespace DspInspector.ScriptedProbeDevice

open DspInspector.Action

/-- The stage of the script. -/
def stageOf (device : ScriptedProbeDevice) : Stage := device.script.stage

theorem keeps_failing (failure : ProbeScript → Option ProbeError) : Keeps stageOf (failing failure) := by
  intro device
  simp only [Yields, failing]
  cases failure device.script <;> rfl

theorem keeps_inject (channel place : Nat) (bytes : List UInt8) :
    Keeps stageOf (inject channel place bytes) := by
  intro device
  simp only [Yields, inject]
  cases device.sinks[place]? with
  | none => rfl
  | some left =>
    cases left with
    | none => rfl
    | some count => cases count <;> rfl

theorem keeps_noted (note : ProbeDeviceNote) :
    Keeps stageOf (modify (noted note) : Action ProbeError ScriptedProbeDevice Unit) :=
  fun _ => rfl

/-- A scripted driver is honest. -/
theorem scripted_honest : driver.Honest stageOf where
  stage device := by
    refine yields_bind.mpr ((keeps_failing ProbeScript.stageFailure device).mono ?_ fun _ _ kept => kept)
    intro _ after kept
    exact ⟨kept, kept⟩
  move source target device := by
    change (move source target).Yields device _ _
    simp only [Yields, move]
    cases device.script.enterFailures.lookup target <;> rfl
  program flow channel probe := (keeps_noted _).bind fun _ => keeps_failing _
  openExtraction := (keeps_noted _).bind fun _ => (keeps_failing _).bind fun _ _ => rfl
  openInjection channel device := by
    refine yields_bind.mpr (yields_bind.mpr ?_)
    refine (keeps_failing (fun script => script.injectionFailures.lookup channel) _).mono ?_ fun _ _ kept => kept
    intro _ after kept
    exact ⟨kept, fun bytes => keeps_inject channel after.sinks.length bytes⟩

end DspInspector.ScriptedProbeDevice

namespace DspInspector.Prober

/-- An idle driver with one channel for each flow. -/
def sampleDevice : ScriptedProbeDevice := { script := { extractionChannels := 1, injectionChannels := 1 } }

/-- One probe that extracts and one that injects. -/
def sampleProbes : List Probe := [⟨true, ⟨5⟩, .extract⟩, ⟨true, ⟨6⟩, .inject⟩]

end DspInspector.Prober

import DspInspector.Probe.Device

/-!
# Scripted probe devices

A probe driver that does what it is told to, for trying out the prober on any behaviour of the
driver. It notes everything that is done to it.
-/

namespace DspInspector

/-- What a probe driver will do. -/
structure ProbeScript where
  extractionChannels : Nat := 2
  injectionChannels : Nat := 2
  stage : Stage := .idle
  /-- Why the stage cannot be read. -/
  stageFailure : Option ProbeError := none
  /-- The stages that cannot be entered. -/
  enterFailures : List (Stage × ProbeError) := []
  /-- The channels that cannot be programmed. -/
  channelFailures : List ((Flow × Nat) × ProbeError) := []
  extractionFailure : Option ProbeError := none
  /-- The channels whose sink cannot be opened. -/
  injectionFailures : List (Nat × ProbeError) := []
  sinkSize : Nat := 8
  /-- How often a sink can be written; no bound when missing. -/
  sinkWrites : Option Nat := none

/-- One thing done to a probe driver. -/
inductive ProbeDeviceNote where
  | move (source target : Stage) (accepted : Bool)
  | program (flow : Flow) (channel : Nat) (probe : Probe)
  | openExtraction
  | openInjection (channel : Nat)
  | inject (channel : Nat) (bytes : List UInt8)
  deriving DecidableEq

/-- A scripted probe driver at work. What it is asked to program or open is noted even when it fails. -/
structure ScriptedProbeDevice where
  script : ProbeScript
  /-- How often each sink that was opened can still be written, in the order of opening. -/
  sinks : List (Option Nat) := []
  /-- The streams that were opened; extraction has only one. -/
  opened : List (Flow × Nat) := []
  notes : List ProbeDeviceNote := []

namespace ScriptedProbeDevice

/-- Notes one thing. -/
def noted (note : ProbeDeviceNote) (device : ScriptedProbeDevice) : ScriptedProbeDevice :=
  { device with notes := device.notes ++ [note] }

/-- Fails with what the script says, if it says so. -/
def failing (failure : ProbeScript → Option ProbeError) : Action ProbeError ScriptedProbeDevice Unit :=
  fun device =>
    match failure device.script with
    | some cause => .error cause device
    | none => .ok () device

/-- Moves to another stage. -/
def move (source target : Stage) : Action ProbeError ScriptedProbeDevice Unit := fun device =>
  match device.script.enterFailures.lookup target with
  | some cause => .error cause (device.noted (.move source target false))
  | none =>
    let device := { device with script := { device.script with stage := target } }
    .ok () (device.noted (.move source target true))

/-- Writes to a sink, as often as it allows. -/
def inject (channel place : Nat) (bytes : List UInt8) : Action ProbeError ScriptedProbeDevice Unit :=
  fun device =>
    match device.sinks[place]? with
    | some (some 0) => .error (.driver "sink full") device
    | left =>
      let sinks := device.sinks.set place ((left.getD none).map (· - 1))
      .ok () ({ device with sinks }.noted (.inject channel bytes))

/-- A sink for an injection channel, as the script has it at the moment. -/
def openSink (channel : Nat) : Action ProbeError ScriptedProbeDevice (Sink ScriptedProbeDevice) :=
  fun device =>
    .ok ⟨device.script.sinkSize, inject channel device.sinks.length⟩
      { device with
        sinks := device.sinks ++ [device.script.sinkWrites]
        opened := device.opened ++ [(.injection, channel)] }

/-- The driver that follows the script. -/
def driver : ProbeDevice ScriptedProbeDevice where
  channels
    | .extraction, device => device.script.extractionChannels
    | .injection, device => device.script.injectionChannels
  stage := do
    failing ProbeScript.stageFailure
    let device ← get
    pure device.script.stage
  move
  program flow channel probe := do
    modify (noted (.program flow channel probe))
    failing fun script => script.channelFailures.lookup (flow, channel)
  openExtraction := do
    modify (noted .openExtraction)
    failing ProbeScript.extractionFailure
    modify fun device => { device with opened := device.opened ++ [(.extraction, 0)] }
  openInjection channel := do
    modify (noted (.openInjection channel))
    failing fun script => script.injectionFailures.lookup channel
    openSink channel

end ScriptedProbeDevice

end DspInspector

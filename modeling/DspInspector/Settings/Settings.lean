import DspInspector.Control.DebugFs
import DspInspector.Fault

/-!
# Settings

What a user can set, one section for each concern. Every value has a default that fits a stock Linux
driver.
-/

namespace DspInspector

/-- Where the firmware is reached. -/
structure TransportSettings where
  controlPath : String := ControlEntries.standard.control
  powerPath : String := ControlEntries.standard.power.path
  coreId : UInt32 := ControlEntries.standard.power.coreId
  deriving DecidableEq

/-- How probes stream. -/
structure ProbeSettings where
  /-- The budget of each queue. -/
  queueBytes : Nat := 5 * 1024 * 1024
  /-- How long a worker waits before it looks whether it should stop. -/
  pollMilliseconds : Nat := 10
  deriving DecidableEq

/-- The time a worker waits, in nanoseconds. -/
def ProbeSettings.pollNanoseconds (settings : ProbeSettings) : Nat := settings.pollMilliseconds * 1000000

/-- What happens when the program starts. -/
structure TopologySettings where
  refreshOnStart : Bool := true
  deriving DecidableEq

/-- What is logged, and where to besides the terminal. -/
structure LoggingSettings where
  filter : String := "info,dsp_debug_agent=debug"
  directory : Option String := none
  deriving DecidableEq

/-- All settings. -/
structure Settings where
  transport : TransportSettings := {}
  probe : ProbeSettings := {}
  topology : TopologySettings := {}
  logging : LoggingSettings := {}
  deriving DecidableEq

namespace Settings

/-- The settings of a user who has set nothing. -/
def standard : Settings := {}

/-- Refuses settings that the program cannot run with. -/
def validate (settings : Settings) : Except Fault Unit :=
  if settings.probe.queueBytes = 0 then .error (.settings .queueSize)
  else if settings.probe.pollMilliseconds = 0 then .error (.settings .pollInterval)
  else if settings.transport.controlPath.isEmpty then .error (.settings .controlPath)
  else .ok ()

/-- The place of the settings file under the directory for configuration. -/
def standardPlace : String := "dsp-debug-agent/agent.toml"

end Settings

end DspInspector

import DspInspector.Wire.Coded
import DspInspector.Tlv.Dictionary

/-!
# Firmware configuration

The firmware describes itself in a list of tagged records. Every value may be missing.
-/

namespace DspInspector

/-- The tags of the firmware configuration. -/
inductive FirmwareTag where
  | version
  | memoryReclaimed
  | slowClock
  | fastClock
  | dmaBuffers
  | alhSupport
  | downlinkMailbox
  | uplinkMailbox
  | traceLog
  | maxPipelines
  | maxAstates
  | maxModulePins
  | modules
  | maxInstances
  | maxLlTasksPerPriority
  | llPriorities
  | maxDpTasks
  | maxLibraries
  deriving DecidableEq

instance : Enumeration FirmwareTag where
  all := [.version, .memoryReclaimed, .slowClock, .fastClock, .dmaBuffers, .alhSupport,
    .downlinkMailbox, .uplinkMailbox, .traceLog, .maxPipelines, .maxAstates, .maxModulePins, .modules,
    .maxInstances, .maxLlTasksPerPriority, .llPriorities, .maxDpTasks, .maxLibraries]
  coding
    | .version => ⟨0, "FwVersion", "fw version"⟩
    | .memoryReclaimed => ⟨1, "MemoryReclaimed", "memory reclaimed"⟩
    | .slowClock => ⟨2, "SlowClockFreqHz", "slow clock frequency"⟩
    | .fastClock => ⟨3, "FastClockFreqHz", "fast clock frequency"⟩
    | .dmaBuffers => ⟨4, "DmaBufferConfig", "dma buffer config"⟩
    | .alhSupport => ⟨5, "AlhSupportLevel", "alh support level"⟩
    | .downlinkMailbox => ⟨6, "IpcDlMailboxBytes", "ipc dl mailbox bytes"⟩
    | .uplinkMailbox => ⟨7, "IpcUlMailboxBytes", "ipc ul mailbox bytes"⟩
    | .traceLog => ⟨8, "TraceLogBytes", "trace log bytes"⟩
    | .maxPipelines => ⟨9, "MaxPplCount", "max pipeline count"⟩
    | .maxAstates => ⟨10, "MaxAstateCount", "max astate count"⟩
    | .maxModulePins => ⟨11, "MaxModulePinCount", "max module pin count"⟩
    | .modules => ⟨12, "ModulesCount", "modules count"⟩
    | .maxInstances => ⟨13, "MaxModInstCount", "max module instance count"⟩
    | .maxLlTasksPerPriority => ⟨14, "MaxLlTasksPerPriCount", "max ll tasks per priority"⟩
    | .llPriorities => ⟨15, "LlPriCount", "ll priority count"⟩
    | .maxDpTasks => ⟨16, "MaxDpTasksCount", "max dp tasks count"⟩
    | .maxLibraries => ⟨17, "MaxLibsCount", "max libraries count"⟩

/-- The version of the firmware. -/
structure FirmwareVersion where
  major : UInt16
  minor : UInt16
  hotfix : UInt16
  build : UInt16
  deriving DecidableEq, Inhabited

namespace FirmwareVersion

/-- The version as it is shown to a person. -/
def text (version : FirmwareVersion) : String :=
  s!"{version.major.toNat}.{version.minor.toNat}.{version.hotfix.toNat}.{version.build.toNat}"

instance : Wire FirmwareVersion :=
  Wire.via (fun (major, minor, hotfix, build) => ⟨major, minor, hotfix, build⟩)
    (fun version => (version.major, version.minor, version.hotfix, version.build))

end FirmwareVersion

/-- The sizes a DMA buffer may have. -/
structure DmaBuffer where
  minBytes : UInt32
  maxBytes : UInt32
  deriving DecidableEq, Inhabited

instance : Wire DmaBuffer :=
  Wire.via (fun (minBytes, maxBytes) => ⟨minBytes, maxBytes⟩) (fun buffer => (buffer.minBytes, buffer.maxBytes))

/-- The firmware configuration; a value is `none`, and the list of DMA buffers empty, until it is received. -/
structure FirmwareConfig where
  version : Option FirmwareVersion := none
  memoryReclaimed : Option UInt32 := none
  slowClockHz : Option UInt32 := none
  fastClockHz : Option UInt32 := none
  dmaBuffers : List DmaBuffer := []
  alhSupportLevel : Option UInt32 := none
  downlinkMailboxBytes : Option UInt32 := none
  uplinkMailboxBytes : Option UInt32 := none
  traceLogBytes : Option UInt32 := none
  maxPipelines : Option UInt32 := none
  maxAstates : Option UInt32 := none
  maxModulePins : Option UInt32 := none
  modules : Option UInt32 := none
  maxInstances : Option UInt32 := none
  maxLlTasksPerPriority : Option UInt32 := none
  llPriorities : Option UInt32 := none
  maxDpTasks : Option UInt32 := none
  maxLibraries : Option UInt32 := none
  deriving DecidableEq

namespace FirmwareConfig

/-- Nothing received. -/
def empty : FirmwareConfig := {}

/-- A slot for a number. -/
def count (get : FirmwareConfig → Option UInt32) (set : Option UInt32 → FirmwareConfig → FirmwareConfig) :
    Tlv.Slot FirmwareConfig :=
  .scalar inferInstance ⟨get, set⟩

/-- The slot of each tag. -/
def slot : FirmwareTag → Tlv.Slot FirmwareConfig
  | .version => .scalar inferInstance ⟨version, fun v config => { config with version := v }⟩
  | .memoryReclaimed => count memoryReclaimed fun v config => { config with memoryReclaimed := v }
  | .slowClock => count slowClockHz fun v config => { config with slowClockHz := v }
  | .fastClock => count fastClockHz fun v config => { config with fastClockHz := v }
  | .dmaBuffers => .sequence inferInstance ⟨dmaBuffers, fun v config => { config with dmaBuffers := v }⟩
  | .alhSupport => count alhSupportLevel fun v config => { config with alhSupportLevel := v }
  | .downlinkMailbox => count downlinkMailboxBytes fun v config => { config with downlinkMailboxBytes := v }
  | .uplinkMailbox => count uplinkMailboxBytes fun v config => { config with uplinkMailboxBytes := v }
  | .traceLog => count traceLogBytes fun v config => { config with traceLogBytes := v }
  | .maxPipelines => count maxPipelines fun v config => { config with maxPipelines := v }
  | .maxAstates => count maxAstates fun v config => { config with maxAstates := v }
  | .maxModulePins => count maxModulePins fun v config => { config with maxModulePins := v }
  | .modules => count modules fun v config => { config with modules := v }
  | .maxInstances => count maxInstances fun v config => { config with maxInstances := v }
  | .maxLlTasksPerPriority =>
    count maxLlTasksPerPriority fun v config => { config with maxLlTasksPerPriority := v }
  | .llPriorities => count llPriorities fun v config => { config with llPriorities := v }
  | .maxDpTasks => count maxDpTasks fun v config => { config with maxDpTasks := v }
  | .maxLibraries => count maxLibraries fun v config => { config with maxLibraries := v }

/-- Every tag with its slot. -/
def dictionary : Tlv.Dictionary FirmwareConfig :=
  ⟨Enumeration.all.map fun tag => ((Enumeration.coding tag).code, slot tag)⟩

end FirmwareConfig

end DspInspector

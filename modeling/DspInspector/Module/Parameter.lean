import DspInspector.Wire.Coded

/-!
# Parameters

Everything the firmware tells and everything it is told is a parameter of a module instance. A plain
id names a parameter; an extended id packs eight bits that name it and twenty-four that say which
object is meant, such as "props of pipeline 3".
-/

namespace DspInspector

/-- A value given by the caller that does not fit where it has to go. -/
inductive ArgumentError where
  | parameterType (given : UInt32)
  | parameterSubId (given : UInt32)
  | moduleId (given : UInt32)
  | instanceId (given : UInt32)
  | probeType (given : UInt32)
  | pinIndex (given : UInt32)
  | payload (given limit : Nat)
  /-- A reason worded elsewhere. -/
  | worded (text : String)
  deriving DecidableEq

/-- The refusal as it is shown to a person. -/
def ArgumentError.message : ArgumentError → String
  | .parameterType given => s!"Extended parameter type too large: {given.toNat} max is: 255"
  | .parameterSubId given => s!"Extended parameter sub id too large: {given.toNat} max is: 16777215"
  | .moduleId given => s!"Module id too large ({given.toNat})"
  | .instanceId given => s!"Instance id too large ({given.toNat})"
  | .probeType given => s!"Invalid probe type ({given.toNat})"
  | .pinIndex given => s!"Pin index too large ({given.toNat})"
  | .payload given limit => s!"Cannot set module parameter: payload too big: {given} max: {limit}"
  | .worded text => text

/-- Parameters of the base firmware module. -/
inductive BaseParameter where
  | firmwareConfig
  | hardwareConfig
  | moduleTable
  | pipelineList
  | pipelineProps
  | schedulers
  | gateways
  | memoryState
  | powerState
  | libraries
  | measurementState
  | measurements
  deriving DecidableEq

instance : Enumeration BaseParameter where
  all := [.firmwareConfig, .hardwareConfig, .moduleTable, .pipelineList, .pipelineProps, .schedulers,
    .gateways, .memoryState, .powerState, .libraries, .measurementState, .measurements]
  coding
    | .firmwareConfig => ⟨7, "FwConfig", "fw config"⟩
    | .hardwareConfig => ⟨8, "HwConfigGet", "hw config"⟩
    | .moduleTable => ⟨9, "ModulesInfoGet", "modules info"⟩
    | .pipelineList => ⟨10, "PipelineListInfoGet", "pipeline list info"⟩
    | .pipelineProps => ⟨11, "PipelinePropsGet", "pipeline props"⟩
    | .schedulers => ⟨12, "SchedulersInfoGet", "schedulers info"⟩
    | .gateways => ⟨13, "GatewaysInfoGet", "gateways info"⟩
    | .memoryState => ⟨14, "MemoryStateInfoGet", "memory state info"⟩
    | .powerState => ⟨15, "PowerStateInfoGet", "power state info"⟩
    | .libraries => ⟨16, "LibrariesInfoGet", "libraries info"⟩
    | .measurementState => ⟨17, "PerfMeasurementsState", "perf measurements state"⟩
    | .measurements => ⟨18, "GlobalPerfData", "global perf data"⟩

/-- Parameters that every module instance understands. -/
inductive InstanceParameter where
  | enable
  | props
  deriving DecidableEq

instance : Enumeration InstanceParameter where
  all := [.enable, .props]
  coding
    | .enable => ⟨0xFD, "ModInstEnable", "module instance enable"⟩
    | .props => ⟨0xFE, "ModInstProps", "module instance props"⟩

/-- The id of a parameter. -/
structure ParameterId where
  raw : UInt32
  deriving DecidableEq, Inhabited

namespace ParameterId

/-- A parameter of the base firmware. -/
def ofBase (parameter : BaseParameter) : ParameterId := ⟨(Enumeration.coding parameter).code⟩

/-- A parameter of any instance. -/
def ofInstance (parameter : InstanceParameter) : ParameterId := ⟨(Enumeration.coding parameter).code⟩

/-- Packs a name below 2^8 and an object number below 2^24. -/
def extended (typeTag subId : UInt32) : Except ArgumentError ParameterId :=
  if typeTag ≥ 0x100 then .error (.parameterType typeTag)
  else if subId ≥ 0x1000000 then .error (.parameterSubId subId)
  else .ok ⟨typeTag ||| subId <<< 8⟩

/-- The eight bits that name the parameter. -/
def typeTag (id : ParameterId) : UInt32 := id.raw &&& 0xFF

/-- The twenty-four bits that say which object is meant. -/
def subId (id : ParameterId) : UInt32 := id.raw >>> 8

/-- The id as it is shown to a person. -/
def text (id : ParameterId) : String := s!"{id.raw.toNat}"

end ParameterId

/-- The largest payload that one parameter access carries. -/
def payloadLimit : Nat := 4096

/-- The room for a reply that is a list of tagged configuration values. -/
def configReplySize : Nat := 2048

end DspInspector

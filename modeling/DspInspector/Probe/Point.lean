import DspInspector.Module.Parameter

/-!
# Probe points

A probe point is a pin of a module instance, packed into one word: sixteen bits of module id, eight
of instance id, two of probe type and six of pin index, low bits first.
-/

namespace DspInspector

/-- The side of a module that a probe point sits on. -/
inductive ProbeType where
  | input
  | output
  | internal
  deriving DecidableEq

instance : Enumeration ProbeType where
  all := [.input, .output, .internal]
  coding
    | .input => ⟨0, "Input", "Input"⟩
    | .output => ⟨1, "Output", "Output"⟩
    | .internal => ⟨2, "Internal", "Internal"⟩

/-- A packed probe point. -/
structure ProbePoint where
  raw : UInt32
  deriving DecidableEq, Inhabited

namespace ProbePoint

/-- The bits of a field that is `width` bits wide and starts at bit `shift`. -/
def mask (shift width : UInt32) : UInt32 := ((1 <<< width) - 1) <<< shift

/-- The number in a field. -/
def field (point : ProbePoint) (shift width : UInt32) : UInt32 :=
  (point.raw >>> shift) &&& ((1 <<< width) - 1)

/-- The point with another number in a field. -/
def withField (point : ProbePoint) (shift width value : UInt32) : ProbePoint :=
  ⟨(point.raw &&& ~~~(mask shift width)) ||| ((value <<< shift) &&& mask shift width)⟩

/-- The module id. -/
def moduleId (point : ProbePoint) : UInt32 := point.field 0 16

/-- The instance id. -/
def instanceId (point : ProbePoint) : UInt32 := point.field 16 8

/-- The probe type. -/
def type (point : ProbePoint) : Coded ProbeType := Coded.ofRaw (point.field 24 2)

/-- The pin index. -/
def index (point : ProbePoint) : UInt32 := point.field 26 6

/-- The point with another module id, which has to fit. -/
def setModuleId (point : ProbePoint) (moduleId : UInt32) : Except ArgumentError ProbePoint :=
  if moduleId < 0x10000 then .ok (point.withField 0 16 moduleId) else .error (.moduleId moduleId)

/-- The point with another instance id, which has to fit. -/
def setInstanceId (point : ProbePoint) (instanceId : UInt32) : Except ArgumentError ProbePoint :=
  if instanceId < 0x100 then .ok (point.withField 16 8 instanceId) else .error (.instanceId instanceId)

/-- The point with another type, which has to be a known one. -/
def setType (point : ProbePoint) (type : Coded ProbeType) : Except ArgumentError ProbePoint :=
  if type.isKnown && type.raw < 4 then .ok (point.withField 24 2 type.raw) else .error (.probeType type.raw)

/-- The point with another pin index, which has to fit. -/
def setIndex (point : ProbePoint) (index : UInt32) : Except ArgumentError ProbePoint :=
  if index < 0x40 then .ok (point.withField 26 6 index) else .error (.pinIndex index)

/-- Packs the four fields; the first that does not fit is refused. -/
def of (moduleId instanceId : UInt32) (type : Coded ProbeType) (index : UInt32) :
    Except ArgumentError ProbePoint := do
  let point ← setModuleId ⟨0⟩ moduleId
  let point ← point.setInstanceId instanceId
  let point ← point.setType type
  point.setIndex index

/-- The point as it is shown to a person. -/
def text (point : ProbePoint) : String :=
  s!"moduleId={point.moduleId.toNat} instanceId={point.instanceId.toNat} " ++
    s!"type={point.type.text} index={point.index.toNat}"

instance : Wire ProbePoint := Wire.via ProbePoint.mk ProbePoint.raw

end ProbePoint

end DspInspector

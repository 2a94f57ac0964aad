import DspInspector.Control.Image
import DspInspector.Control.Transport

/-!
# Simulated firmware

A transport that answers from an image, so that the program runs without a device. A parameter that
was written is answered with what was written last, where the image itself has no answer.
-/

namespace DspInspector

/-- The parameters written so far, newest first, and the counts of accesses. -/
structure Simulation where
  written : List ((InstanceId × ParameterId) × List UInt8)
  stats : AccessStats

namespace Simulation

/-- Nothing written and nothing counted. -/
def fresh : Simulation := ⟨[], .zero⟩

/-- What was written to a parameter last. -/
def stored (simulation : Simulation) (target : InstanceId) (parameter : ParameterId) :
    Except Fault (List UInt8) :=
  match simulation.written.find? (·.1 == (target, parameter)) with
  | some entry => .ok entry.2
  | none => .error (.transport (.unsupportedParameter parameter.raw target))

/-- The answer of the base firmware. -/
def baseReply (image : Image) (simulation : Simulation) (parameter : ParameterId) :
    Except Fault (List UInt8) :=
  match (Coded.ofRaw parameter.typeTag : Coded BaseParameter) with
  | .known .firmwareConfig => .ok (Tlv.writeAll image.firmwareRecords)
  | .known .hardwareConfig => .ok (Tlv.writeAll image.hardwareRecords)
  | .known .moduleTable => .ok (Wire.write image.modules)
  | .known .pipelineList => .ok (Wire.write (image.pipelines.map (·.id)))
  | .known .pipelineProps =>
    match image.pipelines.find? (·.id == parameter.subId) with
    | some pipeline => .ok (Wire.write pipeline)
    | none => .error (.transport (.unknownPipeline parameter.subId))
  | .known .schedulers =>
    match image.schedules[parameter.subId.toNat]? with
    | some schedule => .ok (Wire.write schedule)
    | none => .error (.transport (.unknownCore parameter.subId))
  | .known .gateways => .ok (Wire.write image.gateways)
  | .known .memoryState => .ok (Tlv.writeAll image.memoryRecords)
  | .known .measurements => .ok (Wire.write image.measurements)
  | _ => simulation.stored ⟨0, 0⟩ parameter

/-- The answer to any question, before it is cut to the room for it. -/
def reply (image : Image) (simulation : Simulation) (target : InstanceId) (parameter : ParameterId) :
    Except Fault (List UInt8) :=
  if target = ⟨0, 0⟩ then baseReply image simulation parameter
  else if parameter = ParameterId.ofInstance .props then
    match image.instances.find? target with
    | some props => .ok (Wire.write props)
    | none => .error (.transport (.noInstance target))
  else simulation.stored target parameter

/-- The transport over an image. -/
def transport (image : Image) : Transport Simulation where
  query target parameter capacity := fun simulation =>
    match reply image simulation target parameter with
    | .ok reply =>
      let cut := reply.take capacity
      .ok cut { simulation with stats := simulation.stats.recordQuery cut.length }
    | .error cause => .error cause { simulation with stats := simulation.stats.recordFailure }
  configure target parameter payload := fun simulation =>
    .ok () ⟨((target, parameter), payload) :: simulation.written, simulation.stats.recordConfigure⟩
  stats := Simulation.stats

end Simulation

end DspInspector

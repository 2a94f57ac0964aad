import DspInspector.Load.Report
import DspInspector.Module.Entry
import DspInspector.Report.Graph

/-!
# Modules and measurements as documents
-/

namespace DspInspector

/-- A segment. -/
def Segment.document (segment : Segment) : Document :=
  .object [
    ("flags", .word segment.flags.raw),
    ("v_base_addr", .word segment.baseAddress),
    ("file_offset", .word segment.fileOffset)]

/-- A module entry. -/
def ModuleEntry.document (entry : ModuleEntry) : Document :=
  .object [
    ("module_id", .natural entry.moduleId.toNat),
    ("state_flags", .natural entry.stateFlags.toNat),
    ("name", .bytes entry.nameBytes.toList),
    ("uuid", .listOf .word entry.uuid.toList),
    ("module_type", .word entry.moduleType.raw),
    ("hash", .bytes entry.hash.bytes),
    ("entry_point", .word entry.entryPoint),
    ("cfg_offset", .natural entry.configOffset.toNat),
    ("cfg_count", .natural entry.configCount.toNat),
    ("affinity_mask", .word entry.affinityMask),
    ("instance_max_count", .natural entry.instanceMaxCount.toNat),
    ("instance_stack_size", .natural entry.instanceStackSize.toNat),
    ("segments", .listOf Segment.document entry.segments.toList)]

/-- A measurement. -/
def Measurement.document (item : Measurement) : Document :=
  .object [
    ("resource_id", item.resource.document),
    ("details", .word item.details),
    ("peak", .word item.peak),
    ("average", .word item.average)]

/-- A line of a load report. -/
def LoadItem.document (item : LoadItem) : Document :=
  .object [
    ("uuid", .text item.uuid),
    ("instance_id", .natural item.instanceId.toNat),
    ("power_mode", .text (if item.lowPower then "D0i3" else "D0")),
    ("is_removed", .boolean item.isRemoved),
    ("budget", .word item.budget),
    ("peak", .word item.peak),
    ("average", .word item.average)]

/-- A load report. -/
def LoadReport.document (report : LoadReport) : Document :=
  .object [
    ("cores", .listOf LoadItem.document report.cores),
    ("modules", .listOf LoadItem.document report.modules)]

end DspInspector

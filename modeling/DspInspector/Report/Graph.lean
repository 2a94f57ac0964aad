import DspInspector.Graph.Topology
import DspInspector.Report.Basic

/-!
# Topologies as documents

The document of every object of a topology: an object whose members are named and ordered as readers
of the report expect.
-/

namespace DspInspector

/-- The id of an instance. -/
def InstanceId.document (id : InstanceId) : Document :=
  .object [("module_id", .natural id.moduleId.toNat), ("instance_id", .natural id.instanceId.toNat)]

/-- The id of a gateway. -/
def ConnectorId.document (id : ConnectorId) : Document := .word id.raw

/-- The format at a pin. -/
def AudioFormat.document (format : AudioFormat) : Document :=
  .object [
    ("sampling_frequency", .word format.samplingFrequency),
    ("bit_depth", .word format.bitDepth),
    ("channel_map", .word format.channelMap),
    ("channel_config", format.channelConfig.document),
    ("interleaving_style", format.interleaving.document),
    ("number_of_channels", .natural format.channels.toNat),
    ("valid_bit_depth", .natural format.validBitDepth.toNat),
    ("sample_type", format.sampleType.document),
    ("reserved", .natural format.reserved.toNat)]

/-- A pin. -/
def Pin.document (pin : Pin) : Document :=
  .object [
    ("stream_type", pin.streamType.document),
    ("format", pin.format.document),
    ("phys_queue_id", .word pin.queueId)]

/-- The props of an instance. -/
def InstanceProps.document (props : InstanceProps) : Document :=
  .object [
    ("id", props.id.document),
    ("dp_queue_type", .word props.dpQueueType),
    ("queue_alignment", .word props.queueAlignment),
    ("cp_usage_mask", .word props.cpUsageMask),
    ("stack_bytes", .word props.stackBytes),
    ("bss_total_bytes", .word props.bssTotalBytes),
    ("bss_used_bytes", .word props.bssUsedBytes),
    ("ibs_bytes", .word props.inputBufferBytes),
    ("obs_bytes", .word props.outputBufferBytes),
    ("cpc", .word props.cpc),
    ("cpc_peak", .word props.cpcPeak),
    ("input_pins", .listOf Pin.document props.inputPins),
    ("output_pins", .listOf Pin.document props.outputPins),
    ("input_gateway", props.inputGateway.document),
    ("output_gateway", props.outputGateway.document)]

/-- A gateway. -/
def Gateway.document (gateway : Gateway) : Document :=
  .object [("id", gateway.id.document), ("attribs", .word gateway.attributes)]

/-- A pipeline. -/
def Pipeline.document (pipeline : Pipeline) : Document :=
  .object [
    ("id", .word pipeline.id),
    ("priority", .word pipeline.priority),
    ("state", .word pipeline.state),
    ("total_memory_bytes", .word pipeline.totalMemoryBytes),
    ("used_memory_bytes", .word pipeline.usedMemoryBytes),
    ("context_pages", .word pipeline.contextPages),
    ("module_instances", .listOf InstanceId.document pipeline.instances),
    ("ll_tasks", .listOf .word pipeline.llTasks),
    ("dp_tasks", .listOf .word pipeline.dpTasks)]

/-- A task. -/
def ScheduledTask.document (task : ScheduledTask) : Document :=
  .object [
    ("task_id", .word task.id),
    ("module_instances", .listOf InstanceId.document task.instances)]

/-- A scheduler. -/
def Scheduler.document (scheduler : Scheduler) : Document :=
  .object [
    ("processing_domain", .word scheduler.processingDomain),
    ("core_id", .word scheduler.coreId),
    ("tasks", .listOf ScheduledTask.document scheduler.tasks)]

/-- The schedulers of a core. -/
def CoreSchedule.document (core : CoreSchedule) : Document :=
  .object [("schedulers", .listOf Scheduler.document core.schedulers)]

/-- A link. -/
def Link.document (link : Link) : Document :=
  .object [
    ("from", link.source.document),
    ("from_output", .word link.sourcePin),
    ("to", link.target.document),
    ("to_input", .word link.targetPin)]

/-- A pin without a peer. -/
def Endpoint.document (pin : Endpoint) : Document :=
  .object [
    ("instance", pin.owner.document),
    ("direction", .text pin.direction.text),
    ("index", .word pin.index),
    ("queue_id", .word pin.queueId)]

/-- A topology. The peers are an object whose members are named by gateway number. -/
def Topology.document (topology : Topology) : Document :=
  .object [
    ("captured_at", .text topology.capturedAt.text),
    ("module_instances", .listOf InstanceProps.document topology.instances.values),
    ("gateways", .listOf Gateway.document topology.gateways),
    ("pipelines", .listOf Pipeline.document topology.pipelines),
    ("schedulers", .listOf CoreSchedule.document topology.schedules),
    ("links", .listOf Link.document topology.links),
    ("unresolved", .listOf Endpoint.document topology.unresolved),
    ("gateway_peers", .object (topology.gatewayPeers.entries.map fun (gateway, ids) =>
      (toString gateway.toNat, .listOf InstanceId.document ids)))]

/-- The graph of a topology in short: ids, and the texts of links and of pins without a peer. -/
def Topology.summary (topology : Topology) : Document :=
  let ids := Document.listOf fun id : InstanceId => .text id.text
  .object [
    ("order", .listOf .word topology.pipelineOrder),
    ("instances", ids topology.instances.keys),
    ("links", .listOf (fun link => .text link.text) topology.links),
    ("unresolved", .listOf (fun pin => .text pin.complaint) topology.unresolved),
    ("peers", .listOf (fun (gateway, peers) => .list [.word gateway, ids peers])
      topology.gatewayPeers.entries)]

/-- The report on a topology. -/
def Topology.report (topology : Topology) : String := topology.document.pretty 0

end DspInspector

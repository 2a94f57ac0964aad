import DspInspector.Capability.Limits
import DspInspector.Capability.Memory
import DspInspector.Report.Basic

/-!
# Capabilities as documents
-/

namespace DspInspector

/-- The version of the firmware. -/
def FirmwareVersion.document (version : FirmwareVersion) : Document :=
  .object [
    ("major", .natural version.major.toNat),
    ("minor", .natural version.minor.toNat),
    ("hotfix", .natural version.hotfix.toNat),
    ("build", .natural version.build.toNat)]

/-- The sizes of a DMA buffer. -/
def DmaBuffer.document (buffer : DmaBuffer) : Document :=
  .object [("min_size_bytes", .word buffer.minBytes), ("max_size_bytes", .word buffer.maxBytes)]

/-- The serial audio controllers. -/
def I2sCapabilities.document (caps : I2sCapabilities) : Document :=
  .object [
    ("version", .word caps.version),
    ("controller_base_addr", .listOf .word caps.controllerAddresses)]

/-- The general-purpose DMA controllers. -/
def GpdmaCapabilities.document (caps : GpdmaCapabilities) : Document :=
  .object [
    ("lp_gateways", .listOf .word caps.lowPowerGateways),
    ("hp_gateways", .listOf .word caps.highPowerGateways)]

/-- The firmware configuration. -/
def FirmwareConfig.document (config : FirmwareConfig) : Document :=
  .object [
    ("fw_version", .optional FirmwareVersion.document config.version),
    ("memory_reclaimed", .optional .word config.memoryReclaimed),
    ("slow_clock_freq_hz", .optional .word config.slowClockHz),
    ("fast_clock_freq_hz", .optional .word config.fastClockHz),
    ("dma_buffer_config", .listOf DmaBuffer.document config.dmaBuffers),
    ("alh_support_level", .optional .word config.alhSupportLevel),
    ("ipc_dl_mailbox_bytes", .optional .word config.downlinkMailboxBytes),
    ("ipc_ul_mailbox_bytes", .optional .word config.uplinkMailboxBytes),
    ("trace_log_bytes", .optional .word config.traceLogBytes),
    ("max_ppl_count", .optional .word config.maxPipelines),
    ("max_astate_count", .optional .word config.maxAstates),
    ("max_module_pin_count", .optional .word config.maxModulePins),
    ("modules_count", .optional .word config.modules),
    ("max_mod_inst_count", .optional .word config.maxInstances),
    ("max_ll_tasks_per_pri_count", .optional .word config.maxLlTasksPerPriority),
    ("ll_pri_count", .optional .word config.llPriorities),
    ("max_dp_tasks_count", .optional .word config.maxDpTasks),
    ("max_libs_count", .optional .word config.maxLibraries)]

/-- The hardware configuration. -/
def HardwareConfig.document (config : HardwareConfig) : Document :=
  .object [
    ("cavs_version", .optional .word config.cavsVersion),
    ("dsp_core_count", .optional .word config.cores),
    ("mem_page_bytes", .optional .word config.pageBytes),
    ("total_phys_mem_pages", .optional .word config.physicalPages),
    ("i2s_caps", .optional I2sCapabilities.document config.i2sCapabilities),
    ("gpdma_caps", .optional GpdmaCapabilities.document config.gpdmaCapabilities),
    ("gateway_count", .optional .word config.gateways),
    ("hp_ebb_count", .optional .word config.highPowerBanks),
    ("lp_ebb_count", .optional .word config.lowPowerBanks),
    ("ebb_size_bytes", .optional .word config.bankBytes)]

/-- The use of a bank. -/
def BankState.document (bank : BankState) : Document :=
  .object [
    ("free_phys_mem_pages", .word bank.freePages),
    ("ebb_states", .listOf .word bank.blockStates),
    ("page_alloc", .listOf (fun pages => .natural pages.toNat) bank.pageAllocation)]

/-- The use of both banks. -/
def MemoryState.document (state : MemoryState) : Document :=
  .object [
    ("lpsram", .optional BankState.document state.lowPower),
    ("hpsram", .optional BankState.document state.highPower)]

/-- The limits of a firmware. -/
def Limits.document (limits : Limits) : Document :=
  .object [
    ("fw_version", limits.version.document),
    ("modules_count", .word limits.modules),
    ("max_ppl_count", .word limits.pipelines),
    ("max_mod_inst_count", .word limits.instances),
    ("gateway_count", .word limits.gateways),
    ("dsp_core_count", .word limits.cores)]

end DspInspector

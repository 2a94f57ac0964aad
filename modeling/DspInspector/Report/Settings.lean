import DspInspector.Report.Fault
import DspInspector.Settings.Settings

/-!
# Settings as documents
-/

namespace DspInspector

/-- All settings, by section. -/
def Settings.document (settings : Settings) : Document :=
  .object [
    ("transport", .object [
      ("set_get_ctrl_path", .text settings.transport.controlPath),
      ("core_power_path", .text settings.transport.powerPath),
      ("core_id", .word settings.transport.coreId)]),
    ("probe", .object [
      ("queue_size_bytes", .natural settings.probe.queueBytes),
      ("poll_interval_ms", .natural settings.probe.pollMilliseconds)]),
    ("topology", .object [
      ("refresh_on_start", .boolean settings.topology.refreshOnStart)]),
    ("logging", .object [
      ("filter", .text settings.logging.filter),
      ("directory", .optional .text settings.logging.directory)])]

/-- The settings, whether the program can run with them, and the time a worker waits. -/
def Settings.summary (settings : Settings) : Document :=
  .object [
    ("config", settings.document),
    ("valid", match settings.validate with
      | .ok _ => .object [("ok", .null)]
      | .error cause => cause.document),
    ("poll_ns", .text (toString settings.probe.pollNanoseconds))]

end DspInspector

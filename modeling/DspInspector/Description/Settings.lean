import DspInspector.Json.Read
import DspInspector.Settings.Settings

/-!
# Descriptions of settings
-/

namespace DspInspector

/-- Settings, section by section; what is left out keeps its default. -/
def Settings.ofDocument : Reader Settings := fun document => do
  let standard := Settings.standard
  let transport := document.member "transport"
  let probe := document.member "probe"
  let logging := document.member "logging"
  pure {
    transport := {
      controlPath := ← transport.memberOr "set_get_ctrl_path" standard.transport.controlPath Document.asText
      powerPath := ← transport.memberOr "core_power_path" standard.transport.powerPath Document.asText
      coreId := ← transport.memberOr "core_id" standard.transport.coreId Document.asWord }
    probe := {
      queueBytes := ← probe.memberOr "queue_size_bytes" standard.probe.queueBytes Document.asNat
      pollMilliseconds := ← probe.memberOr "poll_interval_ms" standard.probe.pollMilliseconds Document.asNat }
    topology := {
      refreshOnStart := ← (document.member "topology").memberOr "refresh_on_start"
        standard.topology.refreshOnStart Document.asBool }
    logging := {
      filter := ← logging.memberOr "filter" standard.logging.filter Document.asText
      directory := ← (logging.member "directory").asOptional Document.asText } }

end DspInspector

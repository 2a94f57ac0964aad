import DspInspector.Json.Read
import DspInspector.Probe.Extractor
import DspInspector.Probe.Injector
import DspInspector.Probe.Packet
import DspInspector.Probe.Scripted
import DspInspector.Report.Probe

/-!
# Descriptions of probing

Probes, packets, queues and scripts for a probe driver out of documents.
-/

namespace DspInspector

/-- A probe point. -/
def ProbePoint.ofDocument : Reader ProbePoint := fun document => return ⟨← document.asWord⟩

/-- A purpose, named as in a report; extraction when it is left out. -/
def Purpose.ofName (name : String) : Purpose :=
  ([Purpose.inject, .injectReextract].find? (·.name == name)).getD .extract

/-- A probe, enabled unless it says otherwise. -/
def Probe.ofDocument : Reader Probe := fun document =>
  return ⟨← document.memberOr "enabled" true Document.asBool, ⟨← document.wordAt "probe_point"⟩,
    .ofName (← document.textAt "purpose")⟩

/-- A packet. -/
def Packet.ofDocument (bytes : Reader (List UInt8)) : Reader Packet := fun document =>
  return ⟨⟨← document.wordAt "probe_point_id"⟩, ← document.wordAt "format",
    ← document.wordAt "dsp_wall_clock_ts_hw", ← document.wordAt "dsp_wall_clock_ts_lw",
    ← bytes (document.member "data")⟩

/-- Probe points with the channels that stream them. -/
def ProbePoint.channels : Reader (OrderedMap ProbePoint Nat) := fun document =>
  return .ofList (← document.asList (Document.asPair ProbePoint.ofDocument Document.asNat))

/-- A queue with the items that were pushed to it, open unless it says otherwise. -/
def BlockQueue.ofDocument (bytes : Reader (List UInt8)) (budget : Nat) : Reader BlockQueue :=
  fun document => do
    let queue := BlockQueue.ofBudget (← document.memberOr "budget" budget Document.asNat)
    let queue := if ← document.memberOr "open" true Document.asBool then queue.opened else queue
    return (← document.listAt bytes "items").foldl (fun queue item => (queue.tryPush item).2) queue

/-- A stage, by its name. -/
def Stage.ofDocument : Reader Stage := fun document => do
  let name ← document.asText
  match [Stage.idle, .owned, .allocated, .active].find? (·.text == name) with
  | some stage => pure stage
  | none => throw ⟨"a stage"⟩

/-- A failure that a driver reports: in its own words, or because of a stage it did not expect. -/
def ProbeError.ofDocument : Reader ProbeError
  | .text message => .ok (.driver message)
  | document => return .unexpectedStage (← Stage.ofDocument (document.member "unexpected"))

/-- What a worker gets when it reads a stream. -/
def Reading.ofDocument (bytes : Reader (List UInt8)) : Reader Reading := fun document => do
  if ← document.boolAt "end" then return .ended
  else if document.has "error" then return .failed (.driver (← document.textAt "error"))
  else return .chunk (← bytes (document.member "data"))

/-- What a worker gets when it waits for room. -/
def Grant.ofDocument : Reader Grant := fun document => do
  if document.has "error" then return .failed (.driver (← document.textAt "error"))
  else return .available (← document.natAt "available")

namespace ProbeScript

/-- Failures by the name of what fails. -/
def failures {κ : Type} (key : String → Described κ) : Reader (List (κ × ProbeError)) := fun document =>
  document.members.mapM fun (name, failure) => return (← key name, ← ProbeError.ofDocument failure)

/-- A channel: the name of its flow and its number. -/
def channelOfName (name : String) : Described (Flow × Nat) := do
  for flow in [Flow.extraction, .injection] do
    if name.startsWith flow.name then
      return (flow, ← Document.asNat (.text (name.drop flow.name.length).toString))
  throw ⟨"a channel"⟩

/-- The script after a change of what a description names. -/
def changed (script : ProbeScript) : Reader ProbeScript := fun document => do
  let number (name : String) (old default : Nat) := document.change name old default Document.asNat
  let failure (name : String) (old : Option ProbeError) :=
    document.change name old none (Document.asOptional ProbeError.ofDocument)
  pure {
    extractionChannels := ← number "max_extraction" script.extractionChannels 2
    injectionChannels := ← number "max_injection" script.injectionChannels 2
    stage := ← document.change "state" script.stage .idle Stage.ofDocument
    stageFailure := ← failure "state_error" script.stageFailure
    enterFailures := ← document.change "fail_enter" script.enterFailures []
      (failures fun name => Stage.ofDocument (.text name))
    channelFailures := ← document.change "fail_channel" script.channelFailures [] (failures channelOfName)
    extractionFailure := ← failure "open_extraction_error" script.extractionFailure
    injectionFailures := ← document.change "open_injection_error" script.injectionFailures []
      (failures fun name => Document.asNat (.text name))
    sinkSize := ← number "sink_size" script.sinkSize 8
    sinkWrites := ← document.change "sink_writes" script.sinkWrites none (Document.asOptional Document.asNat) }

/-- A script: what it changes in that of a driver that does everything. -/
def ofDocument : Reader ProbeScript := changed {}

end ProbeScript

end DspInspector

import DspInspector.Control.Connection
import DspInspector.Load.Budget

/-!
# Load reports

The measurements of the firmware, split into cores and module instances. Each instance is given the
UUID of its module and its cycle budget.
-/

namespace DspInspector

/-- One line of a load report. -/
structure LoadItem where
  uuid : String
  instanceId : UInt16
  lowPower : Bool
  isRemoved : Bool
  /-- What the instance is expected to need, 0 when unknown. -/
  budget : UInt32
  peak : UInt32
  average : UInt32
  deriving DecidableEq

/-- The measurements by kind of resource, in the order of the firmware. -/
structure LoadReport where
  cores : List LoadItem
  modules : List LoadItem
  deriving DecidableEq

namespace LoadReport

variable {σ : Type}

/-- No measurement. -/
def empty : LoadReport := ⟨[], []⟩

/-- The line of a measurement. -/
def line (item : Measurement) (uuid : String) (budget : UInt32) : LoadItem where
  uuid
  instanceId := item.resource.instanceId
  lowPower := item.lowPower
  isRemoved := item.isRemoved
  budget
  peak := item.peak
  average := item.average

/-- The budget of a measured instance: none when it is gone or cannot be asked. -/
def budgetOf (transport : Transport σ) (item : Measurement) : Action Fault σ UInt32 :=
  if item.isRemoved then pure 0
  else do
    match ← (Connection.instanceProps transport item.resource).attempt with
    | .error _ => pure 0
    | .ok props =>
      match props.budget with
      | .ok budget => pure budget
      | .error cause => throw (.firmware cause)

/-- The module table, asked for when it is first needed. -/
def table (connection : Connection) (transport : Transport σ) :
    Option (List ModuleEntry) → Action Fault σ (List ModuleEntry)
  | some entries => pure entries
  | none =>
    Action.mapError (Fault.inContext "When getting perf items from firmware")
      (connection.moduleEntries transport)

/-- Adds one measurement after the other to a report. -/
def collect (connection : Connection) (transport : Transport σ) :
    List Measurement → Option (List ModuleEntry) → LoadReport → Action Fault σ LoadReport
  | [], _, report => pure report
  | item :: items, known, report =>
    if item.resource.moduleId = 0 then
      collect connection transport items known
        { report with cores := report.cores ++ [line item "n/a" 0] }
    else do
      let budget ← budgetOf transport item
      let entries ← table connection transport known
      match entries.find? (·.moduleId == item.resource.moduleId) with
      | none => throw (.firmware (.noModule item.resource.moduleId))
      | some entry =>
        collect connection transport items (some entries)
          { report with modules := report.modules ++ [line item entry.uuidText budget] }

/-- Asks for the measurements and reports on them. -/
def fetch (connection : Connection) (transport : Transport σ) : Action Fault σ LoadReport := do
  -- The program stops at a limit that is none, before there is anything to put into a context.
  let limit ← Action.ofExcept connection.limits.measurements
  let items ← Action.mapError (Fault.inContext "When getting perf items from firmware")
    (Connection.measurementsUpTo transport limit)
  collect connection transport items none empty

/-- Ends the measurements when nobody is interested any more; a failure is passed over. -/
def finish (transport : Transport σ) : Action Fault σ Unit := do
  let _ ← (Connection.setMeasurementState transport (.known .disabled)).attempt

end LoadReport

end DspInspector

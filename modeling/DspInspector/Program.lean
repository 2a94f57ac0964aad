import DspInspector.Control.Simulation
import DspInspector.Graph.Publication
import DspInspector.Report.Graph
import DspInspector.Settings.Read

/-!
# The program

The program reads its settings, connects to the firmware and prints the topology as a report. What it
prints, and the code it ends with, are computed here; where the settings come from is decided outside.
-/

namespace DspInspector

/-- How the program ends. -/
structure ProgramOutcome where
  code : UInt32
  output : String
  errors : String
  deriving DecidableEq

namespace ProgramOutcome

/-- A cause in a list of causes. When there are several they are numbered. Lines after the first are
indented like the first. -/
def causeText (number : Option Nat) (cause : String) : String :=
  let lead := match number with
    | some n => String.ofList (List.replicate (5 - (toString n).length) ' ') ++ toString n ++ ": "
    | none => "    "
  let indent := match number with
    | some _ => "\n       "
    | none => "\n    "
  lead ++ indent.intercalate (cause.splitOn "\n")

/-- A failure with its causes. -/
def failureText (failure : String) (causes : List String) : String :=
  let listed := match causes with
    | [] => []
    | [cause] => [causeText none cause]
    | causes => causes.zipIdx.map fun (cause, number) => causeText (some number) cause
  let tail := if listed.isEmpty then "" else "\n\nCaused by:\n" ++ "\n".intercalate listed
  "Error: " ++ failure ++ tail ++ "\n"

/-- The program ends well. -/
def success (output : String) : ProgramOutcome := ⟨0, output, ""⟩

/-- The program ends with a failure. -/
def failure (cause : Fault) : ProgramOutcome := ⟨1, "", failureText cause.message cause.causes⟩

/-- The program ends with a failure in a context. -/
def failureIn (context : String) (cause : Fault) : ProgramOutcome :=
  ⟨1, "", failureText context (cause.message :: cause.causes)⟩

end ProgramOutcome

/-- Connects through a transport and reports on the topology if the settings say so. -/
def inspect {σ : Type} (settings : Settings) (transport : Transport σ) (now : Timestamp) (state : σ) :
    ProgramOutcome :=
  let (established, state) := (Connection.establish transport).run state
  match established with
  | .error cause => .failureIn "Unable to read firmware configuration" cause
  | .ok connection =>
    if settings.topology.refreshOnStart then
      match (Publication.rebuild (.first (.empty now)) connection transport now state).1.1 with
      | .error cause => .failureIn "Unable to build topology" cause
      | .ok topology => .success (topology.report ++ "\n")
    else .success ""

/-- Checks the settings and inspects the simulated firmware. -/
def runProgram (found : Except Fault Settings) (now : Timestamp) : ProgramOutcome :=
  match found with
  | .error cause => .failure cause
  | .ok settings =>
    match settings.validate with
    | .error cause => .failure cause
    | .ok _ => inspect settings (Simulation.transport .demo) now .fresh

end DspInspector

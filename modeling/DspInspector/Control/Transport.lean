import DspInspector.Fault
import DspInspector.Data.Action
import DspInspector.Module.Parameter

/-!
# Transports

Everything the program learns from the firmware, and everything it tells it, is a parameter of a
module instance that is read or written through a transport. What lies behind a transport is its
state; an access may fail, and changes the state either way.
-/

namespace DspInspector

/-- Counts of the accesses made through a transport. -/
structure AccessStats where
  /-- Parameters read. -/
  queries : Nat := 0
  /-- Parameters written. -/
  configures : Nat := 0
  /-- Accesses that were refused or answered with something unusable. -/
  failures : Nat := 0
  bytesReceived : Nat := 0
  deriving DecidableEq

namespace AccessStats

/-- No access yet. -/
def zero : AccessStats := {}

/-- Counts a parameter read, with the size of its value. -/
def recordQuery (stats : AccessStats) (bytes : Nat) : AccessStats :=
  { stats with queries := stats.queries + 1, bytesReceived := stats.bytesReceived + bytes }

/-- Counts a parameter written. -/
def recordConfigure (stats : AccessStats) : AccessStats :=
  { stats with configures := stats.configures + 1 }

/-- Counts a failed access. -/
def recordFailure (stats : AccessStats) : AccessStats :=
  { stats with failures := stats.failures + 1 }

/-- The share of accesses that succeeded, in percent; without accesses it is full. -/
def successRate (stats : AccessStats) : Float :=
  let succeeded := stats.queries + stats.configures
  let total := succeeded + stats.failures
  if total = 0 then 100.0
  else succeeded.toUInt64.toFloat / total.toUInt64.toFloat * 100.0

end AccessStats

/-- The way to the firmware, as actions on the state `σ` of whatever carries the accesses. -/
structure Transport (σ : Type) where
  /-- Reads a parameter of an instance; the caller has no use for more than `capacity` bytes. -/
  query : (target : InstanceId) → (parameter : ParameterId) → (capacity : Nat) →
    Action Fault σ (List UInt8)
  /-- Writes a parameter of an instance. -/
  configure : (target : InstanceId) → (parameter : ParameterId) → (payload : List UInt8) →
    Action Fault σ Unit
  /-- The counts of accesses, where they are kept. -/
  stats : σ → AccessStats := fun _ => AccessStats.zero

/-- One access to a transport and what came of it. -/
inductive Access where
  /-- The length of the reply, when there was one. -/
  | query (target : InstanceId) (parameter : ParameterId) (capacity : Nat) (reply : Option Nat)
  | configure (target : InstanceId) (parameter : ParameterId) (payload : List UInt8) (succeeded : Bool)
  deriving DecidableEq

namespace Transport

variable {σ : Type}

/-- The same transport, as a part of a larger state. -/
def onPart {τ : Type} (get : τ → σ) (set : σ → τ → τ) (transport : Transport σ) : Transport τ where
  query target parameter capacity := Action.onPart get set (transport.query target parameter capacity)
  configure target parameter payload := Action.onPart get set (transport.configure target parameter payload)
  stats state := transport.stats (get state)

/-- The same transport, with every access noted in its state when it returns. -/
def noting (note : Access → σ → σ) (transport : Transport σ) : Transport σ where
  query target parameter capacity := fun state =>
    match transport.query target parameter capacity state with
    | .ok reply after => .ok reply (note (.query target parameter capacity (some reply.length)) after)
    | .error cause after => .error cause (note (.query target parameter capacity none) after)
  configure target parameter payload := fun state =>
    match transport.configure target parameter payload state with
    | .ok _ after => .ok () (note (.configure target parameter payload true) after)
    | .error cause after => .error cause (note (.configure target parameter payload false) after)
  stats := transport.stats

end Transport

end DspInspector

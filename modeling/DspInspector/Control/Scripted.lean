import DspInspector.Control.CorePower
import DspInspector.Control.Transport

/-!
# Scripted transports and devices

Transports and devices that play back what they are told to, for trying out the rest of the program
on any behaviour of the other side.
-/

namespace DspInspector

/-- What a script says about one access. -/
abbrev ScriptedReply := Except String (List UInt8)

/-- Which accesses a rule is about, and the replies to them in order; the last one repeats. -/
structure ScriptRule where
  onQuery : Bool
  moduleId : Option UInt16
  instanceId : Option UInt16
  parameter : Option UInt32
  replies : List ScriptedReply

namespace ScriptRule

/-- The rule is about an access. -/
def covers (rule : ScriptRule) (onQuery : Bool) (target : InstanceId) (parameter : ParameterId) : Bool :=
  rule.onQuery == onQuery && rule.moduleId.all (· == target.moduleId) &&
    rule.instanceId.all (· == target.instanceId) && rule.parameter.all (· == parameter.raw)

/-- The rule after it gave its first reply. -/
def advanced (rule : ScriptRule) : ScriptRule :=
  match rule.replies with
  | _ :: next :: replies => { rule with replies := next :: replies }
  | _ => rule

end ScriptRule

namespace ScriptTable

/-- The reply of the first rule about an access, if any, and the rules after it. -/
def answer (onQuery : Bool) (target : InstanceId) (parameter : ParameterId) :
    List ScriptRule → Option ScriptedReply × List ScriptRule
  | [] => (none, [])
  | rule :: rules =>
    if rule.covers onQuery target parameter then (rule.replies.head?, rule.advanced :: rules)
    else
      let (reply, after) := answer onQuery target parameter rules
      (reply, rule :: after)

/-- The transport that follows a list of rules. A read without a rule fails, a write without one
succeeds. Replies are not cut to the room for them. -/
def transport : Transport (List ScriptRule) where
  query target parameter _ := fun rules =>
    let (reply, after) := answer true target parameter rules
    match reply with
    | some (.ok bytes) => .ok bytes after
    | some (.error text) => .error (.transport (.reported text)) after
    | none => .error (.transport (.reported s!"no rule for parameter {parameter.text}")) after
  configure target parameter _ := fun rules =>
    let (reply, after) := answer false target parameter rules
    match reply with
    | some (.error text) => .error (.transport (.reported text)) after
    | _ => .ok () after

end ScriptTable

/-- One access to a device. -/
inductive DeviceAccess where
  | read (path : String) (request : List UInt8) (capacity : Nat)
  | write (path : String) (request : List UInt8)
  deriving DecidableEq

/-- What a device will answer to reads and writes, in order. -/
structure DeviceScript where
  reads : List ScriptedReply
  /-- The reason why a write fails, if it does. -/
  writes : List (Option String)

namespace DeviceScript

/-- The device that follows a script; past its end reads fail and writes succeed. Each access is noted
when it is made. -/
def device {σ : Type} (get : σ → DeviceScript) (set : DeviceScript → σ → σ)
    (note : DeviceAccess → σ → σ) : ControlDevice σ where
  read path request capacity := fun state =>
    let state := note (.read path request capacity) state
    let script := get state
    match script.reads with
    | [] => .error (.transport (.reported "no more replies")) state
    | .ok bytes :: reads => .ok bytes (set { script with reads } state)
    | .error text :: reads => .error (.transport (.reported text)) (set { script with reads } state)
  write path request := fun state =>
    let state := note (.write path request) state
    let script := get state
    match script.writes with
    | [] => .ok () state
    | none :: writes => .ok () (set { script with writes } state)
    | some text :: writes => .error (.transport (.reported text)) (set { script with writes } state)

end DeviceScript

end DspInspector

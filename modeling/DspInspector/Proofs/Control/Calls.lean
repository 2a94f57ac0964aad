import DspInspector.Proofs.Control.Accesses

/-!
# Calls at the control entry

A caller reads and writes parameters in any order and goes on whatever comes of it. Each call is one round at the
device: it ends at once when the wake vote is refused, and else makes its access and casts the sleep vote
(`yields_whileAwake`). What the two kinds of calls do is said for any device once (`yields_query`, `yields_configure`);
what is counted and what a device sees follows from there.
-/

namespace DspInspector.DebugFs

variable {δ α : Type}

/-- A parameter that a caller wants to read or to write. -/
inductive Call where
  | query (target : InstanceId) (parameter : ParameterId) (capacity : Nat)
  | configure (target : InstanceId) (parameter : ParameterId) (payload : List UInt8)

namespace Call

/-- The access to the control entry that the call is about. -/
def access (entries : ControlEntries) : Call → DeviceAccess
  | .query target parameter capacity =>
    .read entries.control (queryMessage target parameter capacity).encode payloadLimit
  | .configure target parameter payload => .write entries.control (configureRequest target parameter payload)

/-- Makes the call. Writing a parameter returns no bytes. -/
def perform (entries : ControlEntries) (device : ControlDevice δ) :
    Call → Action Fault (CountedDevice δ) (List UInt8)
  | .query target parameter capacity => DebugFs.query entries device target parameter capacity
  | .configure target parameter payload => do
    DebugFs.configure entries device target parameter payload
    pure []

end Call

/-- A call that was made, and what it returned. -/
structure Answer where
  call : Call
  result : Except Fault (List UInt8)

/-- Makes some calls one after the other. -/
def performAll (entries : ControlEntries) (device : ControlDevice δ) :
    List Call → CountedDevice δ → List Answer × CountedDevice δ
  | [], state => ([], state)
  | call :: calls, state =>
    let (result, between) := (call.perform entries device).run state
    let (answers, after) := performAll entries device calls between
    (⟨call, result⟩ :: answers, after)

theorem calls_performAll (entries : ControlEntries) (device : ControlDevice δ) (calls : List Call) :
    ∀ state : CountedDevice δ, (performAll entries device calls state).1.map Answer.call = calls := by
  induction calls with
  | nil => exact fun _ => rfl
  | cons call calls ih =>
    intro state
    simp only [performAll, List.map_cons, ih]

/-- The fault is that the wake vote was refused. -/
def unwoken : Fault → Bool
  | .transport (.corePower _) => true
  | _ => false

/-- The call failed because the wake vote was refused. -/
def Answer.unwoken (answer : Answer) : Bool :=
  match answer.result with
  | .ok _ => false
  | .error cause => DebugFs.unwoken cause

/-! ## One round at the device -/

/-- What the sleep vote leaves; its own failure is passed over. -/
def slept (entries : ControlEntries) (device : ControlDevice δ) (state : CountedDevice δ) : CountedDevice δ :=
  { state with device := ((device.write entries.power.path (entries.power.vote "sleep")).run state.device).2 }

variable {entries : ControlEntries} {device : ControlDevice δ} {state : CountedDevice δ}

theorem yields_wake {done : Unit → CountedDevice δ → Prop} {failed : Fault → CountedDevice δ → Prop} :
    (entries.power.wake (counted device)).Yields state done failed ↔
      (device.write entries.power.path (entries.power.vote "wake")).Yields state.device
        (fun _ awake => done () { state with device := awake })
        fun cause refused => failed (.transport (.corePower cause.message)) { state with device := refused } := by
  simp only [CorePower.wake, CorePower.cast, counted, onDevice, Action.yields_mapError, Action.yields_onPart]

theorem sleep_attempt (entries : ControlEntries) (device : ControlDevice δ) (state : CountedDevice δ) :
    ∃ outcome, ((entries.power.sleep (counted device)).attempt : Action Fault (CountedDevice δ) _) state =
      .ok outcome (slept entries device state) := by
  simp only [CorePower.sleep, CorePower.cast, counted, onDevice, slept, Action.mapError, Action.onPart, Action.attempt,
    Action.run]
  cases device.write entries.power.path (entries.power.vote "sleep") state.device with
  | ok value after => exact ⟨_, rfl⟩
  | error cause after => exact ⟨_, rfl⟩

/-- A refused wake vote is all that happens; after an accepted one comes the action, and the sleep vote in any case. -/
theorem yields_whileAwake {action : Action Fault (CountedDevice δ) α} {done : α → CountedDevice δ → Prop}
    {failed : Fault → CountedDevice δ → Prop} :
    (entries.power.whileAwake (counted device) action).Yields state done failed ↔
      (device.write entries.power.path (entries.power.vote "wake")).Yields state.device
        (fun _ awake => action.Yields { state with device := awake }
          (fun value served => done value (slept entries device served))
          fun cause served => failed cause (slept entries device served))
        fun cause refused => failed (.transport (.corePower cause.message)) { state with device := refused } := by
  have ending : ∀ (outcome : Except Fault α) (served : CountedDevice δ),
      (do
        let _ ← (entries.power.sleep (counted device)).attempt
        Action.ofExcept outcome : Action Fault (CountedDevice δ) α).Yields served done failed ↔
      match outcome with
      | .ok value => done value (slept entries device served)
      | .error cause => failed cause (slept entries device served) := by
    intro outcome served
    obtain ⟨vote, voted⟩ := sleep_attempt entries device served
    rw [Action.yields_bind, Action.yields_of_ok voted]
    cases outcome <;> exact Iff.rfl
  rw [CorePower.whileAwake, Action.yields_bind, yields_wake]
  refine Action.yields_congr (fun _ awake => ?_) fun _ _ => Iff.rfl
  rw [Action.yields_bind, Action.yields_attempt]
  exact Action.yields_congr (fun value served => ending (.ok value) served) fun cause served =>
    ending (.error cause) served

/-- Reading a parameter fails with the device or on what it replied. -/
theorem yields_query {target : InstanceId} {parameter : ParameterId} {capacity : Nat}
    {done : List UInt8 → CountedDevice δ → Prop} {failed : Fault → CountedDevice δ → Prop} :
    (query entries device target parameter capacity).Yields state done failed ↔
      (device.write entries.power.path (entries.power.vote "wake")).Yields state.device
        (fun _ awake =>
          (device.read entries.control (queryMessage target parameter capacity).encode payloadLimit).Yields awake
            (fun reply served =>
              match (queryMessage target parameter capacity).replyPayload reply with
              | .ok payload => done payload (slept entries device ⟨served, state.stats.recordQuery payload.length⟩)
              | .error cause => failed (.wire cause) (slept entries device ⟨served, state.stats.recordFailure⟩))
            fun cause served => failed (.transport (.controlRead entries.control cause.message))
              (slept entries device ⟨served, state.stats.recordFailure⟩))
        fun cause refused => failed (.transport (.corePower cause.message)) { state with device := refused } := by
  rw [query, yields_whileAwake]
  refine Action.yields_congr (fun _ awake => ?_) fun _ _ => Iff.rfl
  rw [Action.yields_bind, Action.yields_attempt, onDevice, Action.yields_onPart]
  refine Action.yields_congr (fun reply served => ?_) fun _ _ => Iff.rfl
  dsimp only
  cases (queryMessage target parameter capacity).replyPayload reply <;> exact Iff.rfl

/-- Writing a parameter fails with the device only. -/
theorem yields_configure {target : InstanceId} {parameter : ParameterId} {payload : List UInt8}
    {done : Unit → CountedDevice δ → Prop} {failed : Fault → CountedDevice δ → Prop} :
    (configure entries device target parameter payload).Yields state done failed ↔
      (device.write entries.power.path (entries.power.vote "wake")).Yields state.device
        (fun _ awake =>
          (device.write entries.control (configureRequest target parameter payload)).Yields awake
            (fun _ served => done () (slept entries device ⟨served, state.stats.recordConfigure⟩))
            fun cause served => failed (.transport (.controlWrite entries.control cause.message))
              (slept entries device ⟨served, state.stats.recordFailure⟩))
        fun cause refused => failed (.transport (.corePower cause.message)) { state with device := refused } := by
  rw [configure, yields_whileAwake]
  refine Action.yields_congr (fun _ awake => ?_) fun _ _ => Iff.rfl
  rw [Action.yields_bind, Action.yields_attempt, onDevice, Action.yields_onPart]
  exact Action.yields_congr (fun _ _ => Iff.rfl) fun _ _ => Iff.rfl

end DspInspector.DebugFs

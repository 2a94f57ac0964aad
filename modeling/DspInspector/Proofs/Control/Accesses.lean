import DspInspector.Control.Connection
import DspInspector.Control.DebugFs
import DspInspector.Control.Scripted
import DspInspector.Proofs.Data.Outcomes

/-!
# What a device sees

A device behaves as it likes; `ControlDevice.recorded` is the same device with a record of every access
and of whether it was taken. Through the record one can say what a call does at the device: once the core
is awake it makes one access to the control entry, with a vote before and a vote after it (`DebugFs.Visit`).
-/

namespace DspInspector

/-- An access to a device, and whether the device took it. -/
structure Attempt where
  access : DeviceAccess
  taken : Bool
  deriving DecidableEq

/-- The state of a device, and every access so far. -/
structure Recording (δ : Type) where
  device : δ
  attempts : List Attempt

variable {δ α β : Type}

/-- An access that is put on record when it is over. -/
def Recording.noting (access : DeviceAccess) (action : Action Fault δ α) : Action Fault (Recording δ) α :=
  fun recording =>
    match action recording.device with
    | .ok value after => .ok value ⟨after, recording.attempts ++ [⟨access, true⟩]⟩
    | .error cause after => .error cause ⟨after, recording.attempts ++ [⟨access, false⟩]⟩

/-- The same device with a record. -/
def ControlDevice.recorded (device : ControlDevice δ) : ControlDevice (Recording δ) where
  read path request capacity := Recording.noting (.read path request capacity) (device.read path request capacity)
  write path request := Recording.noting (.write path request) (device.write path request)

namespace ControlEntries

/-- The vote in front of an access. -/
def wakeVote (entries : ControlEntries) : DeviceAccess :=
  .write entries.power.path (entries.power.vote "wake")

/-- The vote behind an access. -/
def sleepVote (entries : ControlEntries) : DeviceAccess :=
  .write entries.power.path (entries.power.vote "sleep")

/-- The device takes the wake vote. -/
def Wakes (entries : ControlEntries) (device : ControlDevice δ) (state : δ) : Prop :=
  ∃ awake, device.write entries.power.path (entries.power.vote "wake") state = .ok () awake

end ControlEntries

namespace Recording

variable {recording : Recording δ} {access : DeviceAccess}

@[simp] theorem yields_noting {action : Action Fault δ α} {done : α → Recording δ → Prop}
    {failed : Fault → Recording δ → Prop} :
    (noting access action).Yields recording done failed ↔
      action.Yields recording.device
        (fun value after => done value ⟨after, recording.attempts ++ [⟨access, true⟩]⟩)
        (fun cause after => failed cause ⟨after, recording.attempts ++ [⟨access, false⟩]⟩) := by
  cases ran : action recording.device <;> simp only [Action.Yields, noting, ran]

end Recording

namespace DebugFs

/-- The later record is the earlier one with attempts of this shape behind it. -/
def Adds (shape : List Attempt → Prop) (before after : CountedDevice (Recording δ)) : Prop :=
  ∃ added, shape added ∧ after.device.attempts = before.device.attempts ++ added

/-- However the action ends, it adds attempts of this shape to the record. -/
def Records (shape : List Attempt → Prop) (action : Action Fault (CountedDevice (Recording δ)) α)
    (state : CountedDevice (Recording δ)) : Prop :=
  action.Yields state (fun _ => Adds shape state) fun _ => Adds shape state

/-- One access, taken or not. -/
def Once (access : DeviceAccess) (added : List Attempt) : Prop := ∃ taken, added = [⟨access, taken⟩]

/-- Attempts of one shape and then attempts of another. -/
def Followed (one two : List Attempt → Prop) (added : List Attempt) : Prop :=
  ∃ earlier later, one earlier ∧ two later ∧ added = earlier ++ later

/-- One access between a wake vote that was taken and a sleep vote. -/
def Visit (entries : ControlEntries) (access : DeviceAccess) (added : List Attempt) : Prop :=
  ∃ taken asleep, added = [⟨entries.wakeVote, true⟩, ⟨access, taken⟩, ⟨entries.sleepVote, asleep⟩]

variable {entries : ControlEntries} {device : ControlDevice δ} {state : CountedDevice (Recording δ)}
  {access : DeviceAccess} {action : Action Fault (CountedDevice (Recording δ)) α}
  {one two : List Attempt → Prop}

theorem Adds.trans {before between after : CountedDevice (Recording δ)} (first : Adds one before between)
    (second : Adds two between after) : Adds (Followed one two) before after := by
  obtain ⟨earlier, shapeEarlier, reached⟩ := first
  obtain ⟨later, shapeLater, left⟩ := second
  refine ⟨earlier ++ later, ⟨earlier, later, shapeEarlier, shapeLater, rfl⟩, ?_⟩
  rw [left, reached, List.append_assoc]

/-- What follows an attempt comes behind it on the record, whatever the outcome of the attempt. -/
theorem Records.attempt_bind {next : Except Fault α → Action Fault (CountedDevice (Recording δ)) β}
    (first : Records one action state) (second : ∀ outcome between, Records two (next outcome) between) :
    Records (Followed one two) (action.attempt >>= next) state := by
  have joined : ∀ outcome between, Adds one state between →
      (next outcome).Yields between (fun _ => Adds (Followed one two) state)
        fun _ => Adds (Followed one two) state := by
    intro outcome between before
    exact (second outcome between).mono (fun _ _ => before.trans) fun _ _ => before.trans
  rw [Records, Action.yields_bind, Action.yields_attempt]
  exact first.mono (fun value => joined (.ok value)) fun cause => joined (.error cause)

/-- A wake vote that the device takes is all that waking does. -/
theorem wake_ok {device : ControlDevice δ} {state : CountedDevice δ} {awake : δ}
    (woke : device.write entries.power.path (entries.power.vote "wake") state.device = .ok () awake) :
    entries.power.wake (counted device) state = .ok () { state with device := awake } := by
  simp only [CorePower.wake, CorePower.cast, counted, onDevice, Action.mapError, Action.onPart, woke]

theorem records_sleep (entries : ControlEntries) (device : ControlDevice δ) (outcome : Except Fault α) :
    Records (Once entries.sleepVote)
      (do
        let _ ← (entries.power.sleep (counted device.recorded)).attempt
        Action.ofExcept outcome)
      state := by
  simp only [Records, CorePower.sleep, CorePower.cast, counted, onDevice, ControlDevice.recorded, Action.yields_bind,
    Action.yields_attempt, Action.yields_mapError, Action.yields_onPart, Recording.yields_noting]
  refine Action.yields_of_forall (fun _ _ => ?_) fun _ _ => ?_
  · cases outcome <;> exact ⟨_, ⟨true, rfl⟩, rfl⟩
  · cases outcome <;> exact ⟨_, ⟨false, rfl⟩, rfl⟩

/-- The sleep vote is cast whatever came of the access. -/
theorem records_whileAwake (wakes : entries.Wakes device state.device.device)
    (once : ∀ state, Records (Once access) action state) :
    Records (Visit entries access) (entries.power.whileAwake (counted device.recorded) action) state := by
  obtain ⟨awake, woke⟩ := wakes
  let recorded : Recording δ := ⟨awake, state.device.attempts ++ [⟨entries.wakeVote, true⟩]⟩
  let woken : CountedDevice (Recording δ) := { state with device := recorded }
  have taken : device.recorded.write entries.power.path (entries.power.vote "wake") state.device = .ok () recorded := by
    simp only [ControlDevice.recorded, Recording.noting, woke]
    rfl
  have voted : entries.power.wake (counted device.recorded) state = .ok () woken := wake_ok taken
  have vote : Adds (· = [⟨entries.wakeVote, true⟩]) state woken := ⟨_, rfl, rfl⟩
  have rest := (once woken).attempt_bind fun outcome _ => records_sleep entries device outcome
  -- the vote in front is on the record already when the access begins
  have whole : ∀ after, Adds (Followed (Once access) (Once entries.sleepVote)) woken after →
      Adds (Visit entries access) state after := by
    intro after left
    obtain ⟨_, ⟨_, _, rfl, ⟨_, _, ⟨taken, rfl⟩, ⟨asleep, rfl⟩, rfl⟩, rfl⟩, added⟩ := vote.trans left
    exact ⟨_, ⟨taken, asleep, rfl⟩, added⟩
  rw [Records, CorePower.whileAwake, Action.yields_bind, Action.yields_of_ok voted]
  exact rest.mono (fun _ => whole) fun _ => whole

/-- Reading a parameter puts one request on the control entry. -/
theorem records_query (wakes : entries.Wakes device state.device.device) (target : InstanceId)
    (parameter : ParameterId) (capacity : Nat) :
    Records
      (Visit entries (.read entries.control (queryMessage target parameter capacity).encode payloadLimit))
      (query entries device.recorded target parameter capacity) state := by
  refine records_whileAwake wakes fun before => ?_
  simp only [Records, onDevice, ControlDevice.recorded, Action.yields_bind, Action.yields_attempt,
    Action.yields_onPart, Recording.yields_noting]
  refine Action.yields_of_forall (fun reply _ => ?_) fun _ _ => ?_
  · cases (queryMessage target parameter capacity).replyPayload reply <;> exact ⟨_, ⟨true, rfl⟩, rfl⟩
  · exact ⟨_, ⟨false, rfl⟩, rfl⟩

/-- Writing a parameter puts one request on the control entry. -/
theorem records_configure (wakes : entries.Wakes device state.device.device) (target : InstanceId)
    (parameter : ParameterId) (payload : List UInt8) :
    Records (Visit entries (.write entries.control (configureRequest target parameter payload)))
      (configure entries device.recorded target parameter payload) state := by
  refine records_whileAwake wakes fun before => ?_
  simp only [Records, onDevice, ControlDevice.recorded, Action.yields_bind, Action.yields_attempt,
    Action.yields_onPart, Recording.yields_noting]
  refine Action.yields_of_forall (fun _ _ => ?_) fun _ _ => ?_
  · exact ⟨_, ⟨true, rfl⟩, rfl⟩
  · exact ⟨_, ⟨false, rfl⟩, rfl⟩

/-- A write that is let through is a write of the transport. -/
theorem records_setParameter (wakes : entries.Wakes device state.device.device) (target : InstanceId)
    (parameter : ParameterId) {payload : List UInt8} (fits : payload.length ≤ payloadLimit) :
    Records (Visit entries (.write entries.control (configureRequest target parameter payload)))
      (Connection.setParameter (transport entries device.recorded) target parameter payload) state := by
  rw [Connection.setParameter, if_pos fits]
  exact Action.yields_mapError.mpr (records_configure wakes target parameter payload)

end DebugFs

end DspInspector

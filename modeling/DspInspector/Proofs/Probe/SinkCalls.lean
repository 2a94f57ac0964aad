import DspInspector.Proofs.Probe.HostBytes
import DspInspector.Proofs.Data.Outcomes

/-!
# What an injection sink is asked for

A sink is behind two calls: the worker waits for room, and it writes. A sink with a record (`Sink.recorded`) keeps the
calls in their order, each with what came of it. The calls of a worker follow one pattern (`Rounds`): the buffer is
filled once, and then in rounds of a wait and, if there is room for a sample, a write. The pattern does not depend on
the queue, so the queue may be changed by others at any time, also between two blocks of the same write (`Meanwhile`).
-/

namespace DspInspector

variable {δ : Type}

/-! ## Calls -/

/-- A call to a sink, and what came of it. -/
inductive SinkCall where
  | wait (room : Grant)
  | write (bytes : List UInt8) (failure : Option ProbeError)

/-- How the call failed. -/
def SinkCall.failure : SinkCall → Option ProbeError
  | wait (.available _) => none
  | wait (.failed cause) => some cause
  | write _ failure => failure

/-- The same sink, with its writes put behind the calls so far. -/
def Sink.recorded (sink : Sink δ) : Sink (δ × List SinkCall) where
  size := sink.size
  write bytes := fun (device, calls) =>
    match sink.write bytes device with
    | .ok _ after => .ok () (after, calls ++ [.write bytes none])
    | .error cause after => .error cause (after, calls ++ [.write bytes (some cause)])

/-- A buffer of some size is filled, and then filled up by rounds. The last call of a round may fail. -/
inductive Rounds (size sampleBytes : Nat) : List SinkCall → Option ProbeError → Prop where
  | prefilled {bytes : List UInt8} (whole : bytes.length = size / sampleBytes * sampleBytes) :
    Rounds size sampleBytes [.write bytes none] none
  | little {calls : List SinkCall} {free : Nat} (rounds : Rounds size sampleBytes calls none)
    (room : free < sampleBytes) : Rounds size sampleBytes (calls ++ [.wait (.available free)]) none
  | filled {calls : List SinkCall} {free : Nat} {bytes : List UInt8} {failure : Option ProbeError}
    (rounds : Rounds size sampleBytes calls none) (room : sampleBytes ≤ free)
    (whole : bytes.length = free / sampleBytes * sampleBytes) :
    Rounds size sampleBytes (calls ++ [.wait (.available free), .write bytes failure]) failure
  | unanswered {calls : List SinkCall} {cause : ProbeError} (rounds : Rounds size sampleBytes calls none) :
    Rounds size sampleBytes (calls ++ [.wait (.failed cause)]) (some cause)

namespace Rounds

variable {size sampleBytes : Nat} {calls : List SinkCall} {outcome : Option ProbeError}

/-- The calls that failed are those that the outcome tells of. -/
theorem failures (rounds : Rounds size sampleBytes calls outcome) :
    calls.filterMap SinkCall.failure = outcome.toList := by
  induction rounds with
  | prefilled => rfl
  | little rounds room ih =>
    rw [List.filterMap_append, ih]
    rfl
  | @filled _ _ _ failure rounds room whole ih =>
    rw [List.filterMap_append, ih]
    cases failure <;> rfl
  | unanswered rounds ih =>
    rw [List.filterMap_append, ih]
    rfl

theorem failure_eq_none (rounds : Rounds size sampleBytes calls none) {call : SinkCall} (member : call ∈ calls) :
    call.failure = none := by
  have failures := rounds.failures
  rw [Option.toList_none, List.filterMap_eq_nil_iff] at failures
  exact failures call member

end Rounds

/-! ## The place of a call -/

/-- What comes before a call, and what comes after it. -/
inductive Placed (size sampleBytes : Nat) : List SinkCall → SinkCall → List SinkCall → Prop where
  | prefill {bytes : List UInt8} {later : List SinkCall} (whole : bytes.length = size / sampleBytes * sampleBytes) :
    Placed size sampleBytes [] (.write bytes none) later
  | little {before later : List SinkCall} {free : Nat} (room : free < sampleBytes) :
    Placed size sampleBytes before (.wait (.available free)) later
  | served {before later : List SinkCall} {free : Nat} {bytes : List UInt8} {failure : Option ProbeError}
    (room : sampleBytes ≤ free) :
    Placed size sampleBytes before (.wait (.available free)) (.write bytes failure :: later)
  | filling {before later : List SinkCall} {free : Nat} {bytes : List UInt8} {failure : Option ProbeError}
    (room : sampleBytes ≤ free) (whole : bytes.length = free / sampleBytes * sampleBytes)
    (last : failure ≠ none → later = []) :
    Placed size sampleBytes (before ++ [.wait (.available free)]) (.write bytes failure) later
  | unanswered {before : List SinkCall} {cause : ProbeError} :
    Placed size sampleBytes before (.wait (.failed cause)) []

/-- More calls may come after a call that did not fail. -/
theorem Placed.append {size sampleBytes : Nat} {before later : List SinkCall} {call : SinkCall}
    (placed : Placed size sampleBytes before call later) (fine : call.failure = none) (more : List SinkCall) :
    Placed size sampleBytes before call (later ++ more) := by
  cases placed with
  | prefill whole => exact .prefill whole
  | little room => exact .little room
  | served room => exact .served room
  | filling room whole last => exact .filling room whole fun failed => absurd fine failed
  | unanswered => cases fine

/-- A place in two lists is a place in the first or in the second. -/
theorem split_append {α : Type} {calls added before later : List α} {call : α}
    (split : calls ++ added = before ++ call :: later) :
    (∃ rest, later = rest ++ added ∧ calls = before ++ call :: rest) ∨
      ∃ front, before = calls ++ front ∧ added = front ++ call :: later := by
  rcases List.append_eq_append_iff.mp split with ⟨front, rfl, behind⟩ | ⟨rest, rfl, behind⟩
  · exact .inr ⟨front, rfl, behind⟩
  · rcases List.cons_eq_append_iff.mp behind with ⟨rfl, whole⟩ | ⟨between, rfl, rfl⟩
    · exact .inr ⟨[], by rw [List.append_nil, List.append_nil], whole⟩
    · exact .inl ⟨between, rfl, rfl⟩

theorem split_singleton {α : Type} {only call : α} {before later : List α}
    (split : [only] = before ++ call :: later) : before = [] ∧ call = only ∧ later = [] := by
  rcases List.append_eq_singleton_iff.mp split.symm with ⟨rfl, same⟩ | ⟨-, none⟩
  · obtain ⟨rfl, rfl⟩ := List.cons.inj same
    exact ⟨rfl, rfl, rfl⟩
  · cases none

/-- Every call of the pattern is in its place. A round is put behind calls that did not fail, and these keep their
places. -/
theorem Rounds.placed {size sampleBytes : Nat} {calls : List SinkCall} {outcome : Option ProbeError}
    (rounds : Rounds size sampleBytes calls outcome) {before later : List SinkCall} {call : SinkCall}
    (split : calls = before ++ call :: later) : Placed size sampleBytes before call later := by
  induction rounds generalizing before call later with
  | prefilled whole =>
    obtain ⟨rfl, rfl, rfl⟩ := split_singleton split
    exact .prefill whole
  | little rounds room ih =>
    rcases split_append split with ⟨rest, rfl, earlier⟩ | ⟨front, rfl, added⟩
    · exact (ih earlier).append (rounds.failure_eq_none (earlier ▸ by simp)) _
    · obtain ⟨rfl, rfl, rfl⟩ := split_singleton added
      exact .little room
  | @filled calls free bytes failure rounds room whole ih =>
    rcases split_append split with ⟨rest, rfl, earlier⟩ | ⟨front, rfl, added⟩
    · exact (ih earlier).append (rounds.failure_eq_none (earlier ▸ by simp)) _
    · -- The call is the wait of the round, or its write.
      have round : [SinkCall.wait (.available free)] ++ [.write bytes failure] = front ++ call :: later := added
      rcases split_append round with ⟨rest, rfl, wait⟩ | ⟨_, rfl, write⟩
      · obtain ⟨rfl, rfl, rfl⟩ := split_singleton wait
        exact .served room
      · obtain ⟨rfl, rfl, rfl⟩ := split_singleton write
        exact .filling room whole fun _ => rfl
  | unanswered rounds ih =>
    rcases split_append split with ⟨rest, rfl, earlier⟩ | ⟨front, rfl, added⟩
    · exact (ih earlier).append (rounds.failure_eq_none (earlier ▸ by simp)) _
    · obtain ⟨rfl, rfl, rfl⟩ := split_singleton added
      exact .unanswered

/-! ## A worker at its sink -/

/-- What happens to a queue while a worker is on its way to a write. -/
inductive Meanwhile where
  /-- Somebody else pushes, or changes the queue in another way. -/
  | others (change : BlockQueue → BlockQueue)
  /-- A call for so many samples, while it still wants bytes, takes a block. -/
  | fetch (count : Nat)

def Meanwhile.apply : Meanwhile → Feeder × BlockQueue → Feeder × BlockQueue
  | others change, (feeder, queue) => (feeder, change queue)
  | fetch count, (feeder, queue) =>
    if feeder.carry.length < count * feeder.sampleBytes then feeder.fetch queue else (feeder, queue)

/-- The start of a worker whose feeder has taken some blocks already. -/
def Injector.startWith (channel : Nat) (sink : Sink δ) (feeder : Feeder) :
    Action ProbeError (BlockQueue × δ) (Injector δ) := do
  let feeder ← writeSamples sink (sink.size / feeder.sampleBytes) feeder
  pure { channel, sink, feeder, isRunning := true, isStopped := false }

/-- The start of a worker, while other things happen at its queue. -/
def Injector.startAmid (meanwhile : List Meanwhile) (channel : Nat) (sink : Sink δ) (sampleBytes : Nat) :
    Action ProbeError (BlockQueue × δ) (Injector δ) := fun (queue, device) =>
  let (feeder, queue) := meanwhile.foldl (fun state event => event.apply state) ({ sampleBytes }, queue)
  startWith channel sink feeder (queue, device)

/-- When nothing else happens, it is the start of the worker. -/
theorem Injector.startAmid_nil (channel : Nat) (sink : Sink δ) (sampleBytes : Nat) :
    startAmid [] channel sink sampleBytes = start channel sink sampleBytes := rfl

/-- A worker with its queue, its sink and the events it has caused. -/
structure Injection (δ : Type) where
  worker : Injector (δ × List SinkCall)
  queue : BlockQueue
  device : δ × List SinkCall
  events : List WorkerEvent

inductive InjectionMove where
  | meanwhile (event : Meanwhile)
  /-- The wait for room comes back. -/
  | grant (room : Grant)
  | stop

namespace Injection

/-- A worker that was just started. -/
def begun (worker : Injector (δ × List SinkCall)) (after : BlockQueue × δ × List SinkCall) : Injection δ :=
  ⟨worker, after.1, after.2, []⟩

def calls (injection : Injection δ) : List SinkCall := injection.device.2

/-- What a move comes to. A worker that has ended does not wait. -/
def move (injection : Injection δ) : InjectionMove → Injection δ
  | .meanwhile event =>
    -- That a worker which has ended may fetch as well makes for more runs, not for fewer.
    let (feeder, queue) := event.apply (injection.worker.feeder, injection.queue)
    { injection with queue, worker := { injection.worker with feeder } }
  | .grant room =>
    if injection.worker.isRunning then
      let waited := (injection.device.1, injection.calls ++ [.wait room])
      let (worker, events, queue, device) := injection.worker.receive room injection.queue waited
      { worker, queue, device, events := injection.events ++ events }
    else injection
  | .stop =>
    let (worker, queue) := injection.worker.stop injection.queue
    { injection with worker, queue }

def after (injection : Injection δ) (moves : List InjectionMove) : Injection δ := moves.foldl move injection

end Injection

/-! ## Writes -/

theorem Meanwhile.sampleBytes_apply (event : Meanwhile) (state : Feeder × BlockQueue) :
    (event.apply state).1.sampleBytes = state.1.sampleBytes := by
  cases event with
  | others change => rfl
  | fetch count =>
    simp only [apply]
    split
    · unfold Feeder.fetch
      split <;> rfl
    · rfl

theorem Meanwhile.sampleBytes_foldl (meanwhile : List Meanwhile) (state : Feeder × BlockQueue) :
    (meanwhile.foldl (fun state event => event.apply state) state).1.sampleBytes = state.1.sampleBytes := by
  induction meanwhile generalizing state with
  | nil => rfl
  | cons event meanwhile ih => exact (ih _).trans (event.sampleBytes_apply state)

/-- A write is one call, of as many samples as were asked for. -/
theorem Injector.yields_writeSamples_recorded (sink : Sink δ) (count : Nat) (feeder : Feeder) (queue : BlockQueue)
    (device : δ) (calls : List SinkCall) :
    (writeSamples sink.recorded count feeder).Yields (queue, device, calls)
      (fun feeder' after => feeder'.sampleBytes = feeder.sampleBytes ∧
        ∃ bytes, bytes.length = count * feeder.sampleBytes ∧ after.2.2 = calls ++ [.write bytes none])
      (fun cause after =>
        ∃ bytes, bytes.length = count * feeder.sampleBytes ∧ after.2.2 = calls ++ [.write bytes (some cause)]) := by
  have length : (feeder.next count queue).1.length = count * feeder.sampleBytes := by
    rw [← Feeder.bytes_portion, Feeder.length_portion]
  have size := (Feeder.next_eq count feeder queue).2.1
  simp only [Action.Yields, writeSamples, Sink.recorded]
  cases sink.write (feeder.next count queue).1 device with
  | ok _ after => exact ⟨size, _, length, rfl⟩
  | error cause after => exact ⟨_, length, rfl⟩

/-! ## Rounds of a worker -/

section Receiving

variable {worker : Injector δ} {queue : BlockQueue} {device : δ}

theorem Injector.receive_failed (isRunning : worker.isRunning = true) (cause : ProbeError) :
    worker.receive (.failed cause) queue device =
      ({ worker with isRunning := false }, [aborted worker.channel cause], queue, device) := by
  rw [receive, if_pos isRunning]
  rfl

theorem Injector.receive_little (isRunning : worker.isRunning = true) {free : Nat}
    (room : free < worker.feeder.sampleBytes) :
    worker.receive (.available free) queue device = (worker, [], queue, device) := by
  have none : ¬ 0 < free / worker.feeder.sampleBytes := by
    rw [Nat.div_eq_of_lt room]
    exact Nat.lt_irrefl 0
  rw [receive, if_pos isRunning, fill, if_neg none]
  rfl

theorem Injector.receive_room (isRunning : worker.isRunning = true) (positive : 0 < worker.feeder.sampleBytes)
    {free : Nat} (room : worker.feeder.sampleBytes ≤ free) :
    worker.receive (.available free) queue device =
      match writeSamples worker.sink (free / worker.feeder.sampleBytes) worker.feeder (queue, device) with
      | .ok feeder after => ({ worker with feeder }, [], after)
      | .error cause after => ({ worker with isRunning := false }, [aborted worker.channel cause], after) := by
  have some : 0 < free / worker.feeder.sampleBytes := Nat.div_pos room positive
  rewrite [receive, if_pos isRunning, fill, if_pos some]
  rfl

end Receiving

namespace Injection

/-- The worker has kept to the pattern so far, and it has told of a failure if there was one. -/
structure Regular (channel : Nat) (sink : Sink δ) (sampleBytes : Nat) (injection : Injection δ)
    (outcome : Option ProbeError) : Prop where
  ofChannel : injection.worker.channel = channel
  atSink : injection.worker.sink = sink.recorded
  inSamples : injection.worker.feeder.sampleBytes = sampleBytes
  rounds : Rounds sink.size sampleBytes injection.calls outcome
  told : injection.events = outcome.toList.map (Injector.aborted channel)
  ended : outcome ≠ none → injection.worker.isRunning = false

variable {channel sampleBytes : Nat} {sink : Sink δ} {injection : Injection δ} {outcome : Option ProbeError}

/-- A worker that has ended calls nothing and has nothing to tell. -/
theorem silent_move (ended : injection.worker.isRunning = false) (move : InjectionMove) :
    (injection.move move).worker.isRunning = false ∧ (injection.move move).calls = injection.calls ∧
      (injection.move move).events = injection.events := by
  cases move with
  | meanwhile event => exact ⟨ended, rfl, rfl⟩
  | grant room => simp only [Injection.move, ended, Bool.false_eq_true, ↓reduceIte, and_self]
  | stop => exact ⟨rfl, rfl, rfl⟩

theorem silent_after (ended : injection.worker.isRunning = false) (moves : List InjectionMove) :
    (injection.after moves).calls = injection.calls ∧ (injection.after moves).events = injection.events := by
  induction moves generalizing injection with
  | nil => exact ⟨rfl, rfl⟩
  | cons move moves ih =>
    obtain ⟨stillEnded, calls, events⟩ := silent_move ended move
    obtain ⟨callsAfter, eventsAfter⟩ := ih stillEnded
    exact ⟨callsAfter.trans calls, eventsAfter.trans events⟩

theorem move_grant (isRunning : injection.worker.isRunning = true) {room : Grant}
    {worker : Injector (δ × List SinkCall)} {events : List WorkerEvent} {queue : BlockQueue}
    {device : δ × List SinkCall}
    (received : injection.worker.receive room injection.queue (injection.device.1, injection.calls ++ [.wait room]) =
      (worker, events, queue, device)) :
    injection.move (.grant room) = ⟨worker, queue, device, injection.events ++ events⟩ := by
  rw [move, if_pos isRunning]
  simp only [received]

/-- A wait of a worker that runs makes one round. -/
theorem Regular.grant (positive : 0 < sampleBytes) (regular : injection.Regular channel sink sampleBytes none)
    (isRunning : injection.worker.isRunning = true) (room : Grant) :
    ∃ outcome, (injection.move (.grant room)).Regular channel sink sampleBytes outcome := by
  obtain ⟨rfl, atSink, rfl, rounds, told, -⟩ := regular
  have none : injection.events = [] := told
  cases room with
  | failed cause =>
    rw [move_grant isRunning (Injector.receive_failed isRunning cause), none]
    exact ⟨some cause, rfl, atSink, rfl, .unanswered rounds, rfl, fun _ => rfl⟩
  | available free =>
    by_cases little : free < injection.worker.feeder.sampleBytes
    · rw [move_grant isRunning (Injector.receive_little isRunning little), none]
      exact ⟨.none, rfl, atSink, rfl, .little rounds little, rfl, fun failed => absurd rfl failed⟩
    · have room : injection.worker.feeder.sampleBytes ≤ free := Nat.le_of_not_lt little
      have received : injection.worker.receive (.available free) injection.queue
          (injection.device.1, injection.calls ++ [.wait (.available free)]) = _ :=
        Injector.receive_room isRunning positive room
      rw [atSink] at received
      have wrote := Injector.yields_writeSamples_recorded sink (free / injection.worker.feeder.sampleBytes)
        injection.worker.feeder injection.queue injection.device.1 (injection.calls ++ [.wait (.available free)])
      cases ran : Injector.writeSamples sink.recorded (free / injection.worker.feeder.sampleBytes)
          injection.worker.feeder
          (injection.queue, injection.device.1, injection.calls ++ [.wait (.available free)]) with
      | ok feeder after =>
        obtain ⟨size, bytes, whole, grown⟩ := wrote.of_ok ran
        rw [ran] at received
        rw [move_grant isRunning received, none]
        refine ⟨.none, rfl, rfl, size, ?_, rfl, fun failed => absurd rfl failed⟩
        rw [calls, grown, List.append_assoc]
        exact .filled rounds room whole
      | error cause after =>
        obtain ⟨bytes, whole, grown⟩ := wrote.of_error ran
        rw [ran] at received
        rw [move_grant isRunning received, none]
        refine ⟨some cause, rfl, rfl, rfl, ?_, rfl, fun _ => rfl⟩
        rw [calls, grown, List.append_assoc]
        exact .filled rounds room whole

theorem Regular.move (positive : 0 < sampleBytes) (regular : injection.Regular channel sink sampleBytes outcome)
    (move : InjectionMove) :
    ∃ outcome, (injection.move move).Regular channel sink sampleBytes outcome := by
  cases move with
  | meanwhile event =>
    obtain ⟨ofChannel, atSink, inSamples, rounds, told, ended⟩ := regular
    have size := event.sampleBytes_apply (injection.worker.feeder, injection.queue)
    exact ⟨outcome, ofChannel, atSink, size.trans inSamples, rounds, told, ended⟩
  | stop =>
    obtain ⟨ofChannel, atSink, inSamples, rounds, told, ended⟩ := regular
    exact ⟨outcome, ofChannel, atSink, inSamples, rounds, told, fun _ => rfl⟩
  | grant room =>
    by_cases isRunning : injection.worker.isRunning = true
    · cases outcome with
      | none => exact regular.grant positive isRunning room
      | some cause => exact absurd isRunning (by simp [regular.ended])
    · have same : injection.move (.grant room) = injection := if_neg isRunning
      rw [same]
      exact ⟨outcome, regular⟩

theorem Regular.after (positive : 0 < sampleBytes) (regular : injection.Regular channel sink sampleBytes outcome)
    (moves : List InjectionMove) :
    ∃ outcome, (injection.after moves).Regular channel sink sampleBytes outcome := by
  induction moves generalizing injection outcome with
  | nil => exact ⟨outcome, regular⟩
  | cons move moves ih =>
    obtain ⟨_, next⟩ := regular.move positive move
    exact ih next

end Injection

/-! ## The calls of a worker -/

/-- Each write has whole samples: the first one as many as the buffer takes, and any other one as many as there is room
for by the wait right before it. -/
def WritesFit (size sampleBytes : Nat) (calls : List SinkCall) : Prop :=
  ∀ before bytes failure later, calls = before ++ .write bytes failure :: later →
    sampleBytes ∣ bytes.length ∧
      (before = [] ∧ bytes.length = size / sampleBytes * sampleBytes ∧ bytes.length ≤ size ∨
        ∃ earlier free, before = earlier ++ [.wait (.available free)] ∧ sampleBytes ≤ free ∧
          bytes.length = free / sampleBytes * sampleBytes ∧ bytes.length ≤ free)

/-- A wait that finds room for a sample is followed by a write. -/
def WaitsServed (sampleBytes : Nat) (calls : List SinkCall) : Prop :=
  ∀ before free later, calls = before ++ .wait (.available free) :: later → sampleBytes ≤ free →
    ∃ bytes failure rest, later = .write bytes failure :: rest

/-- Nothing is called after a call that failed. -/
def EndsAtFailure (calls : List SinkCall) : Prop :=
  ∀ before call later, calls = before ++ call :: later → call.failure ≠ none → later = []

namespace Rounds

variable {size sampleBytes : Nat} {calls : List SinkCall} {outcome : Option ProbeError}

theorem whole_fits {bytes : List UInt8} {room : Nat} (whole : bytes.length = room / sampleBytes * sampleBytes) :
    sampleBytes ∣ bytes.length ∧ bytes.length ≤ room := by
  rw [whole]
  exact ⟨Nat.dvd_mul_left _ _, Nat.div_mul_le_self _ _⟩

theorem writesFit (rounds : Rounds size sampleBytes calls outcome) : WritesFit size sampleBytes calls := by
  intro before bytes failure later split
  cases rounds.placed split with
  | prefill whole =>
    obtain ⟨divides, fits⟩ := whole_fits whole
    exact ⟨divides, .inl ⟨rfl, whole, fits⟩⟩
  | filling room whole =>
    obtain ⟨divides, fits⟩ := whole_fits whole
    exact ⟨divides, .inr ⟨_, _, rfl, room, whole, fits⟩⟩

theorem waitsServed (rounds : Rounds size sampleBytes calls outcome) : WaitsServed sampleBytes calls := by
  intro before free later split room
  cases rounds.placed split with
  | little little => exact absurd room (Nat.not_le_of_lt little)
  | served => exact ⟨_, _, _, rfl⟩

theorem endsAtFailure (rounds : Rounds size sampleBytes calls outcome) : EndsAtFailure calls := by
  intro before call later split failed
  cases rounds.placed split with
  | prefill => exact absurd rfl failed
  | little => exact absurd rfl failed
  | served => exact absurd rfl failed
  | filling _ _ last => exact last failed
  | unanswered => rfl

/-- The first call fills the buffer. -/
theorem exists_prefill (rounds : Rounds size sampleBytes calls outcome) :
    ∃ bytes rest, calls = .write bytes none :: rest := by
  induction rounds with
  | prefilled => exact ⟨_, [], rfl⟩
  | little _ _ ih | filled _ _ _ ih | unanswered _ ih =>
    obtain ⟨bytes, rest, rfl⟩ := ih
    exact ⟨bytes, _, rfl⟩

end Rounds

namespace Injector

variable (channel : Nat) (sink : Sink δ) (device : δ)

theorem yields_startWith (feeder : Feeder) (queue : BlockQueue) :
    (startWith channel sink.recorded feeder).Yields (queue, device, [])
      (fun worker after => (Injection.begun worker after).Regular channel sink feeder.sampleBytes none)
      (fun cause after => ∃ bytes, after.2.2 = [.write bytes (some cause)] ∧
        bytes.length = sink.size / feeder.sampleBytes * feeder.sampleBytes) := by
  rw [startWith, Action.yields_bind]
  refine (yields_writeSamples_recorded sink _ feeder queue device []).mono ?_ ?_
  · rintro filled after ⟨size, bytes, whole, written⟩
    refine ⟨rfl, rfl, size, ?_, rfl, fun failed => absurd rfl failed⟩
    show Rounds sink.size feeder.sampleBytes after.2.2 none
    rw [written]
    exact .prefilled whole
  · rintro cause after ⟨bytes, whole, written⟩
    exact ⟨bytes, written, whole⟩

variable {sampleBytes : Nat} (meanwhile : List Meanwhile) (queue : BlockQueue)

/-- Where nothing else happens at its queue, the start of a worker amid other things is its start. Whatever the sink
answers and whatever happens at the queue: the start of a worker is one write that fills the buffer with whole samples,
and fails if the write fails. A worker that was started writes after a wait that found room for a sample, as many samples
as there is room for. The first call that fails is the last one; it is told once, and the worker has ended. A worker that
has ended calls nothing and tells nothing more. -/
theorem whole_samples_that_fit (positive : 0 < sampleBytes) :
    startAmid [] channel sink.recorded sampleBytes = start channel sink.recorded sampleBytes ∧
    (startAmid meanwhile channel sink.recorded sampleBytes).Yields (queue, device, [])
      (fun worker started => ∀ moves,
        let injection := (Injection.begun worker started).after moves
        (∃ bytes rest, injection.calls = .write bytes none :: rest) ∧
        WritesFit sink.size sampleBytes injection.calls ∧ WaitsServed sampleBytes injection.calls ∧
        EndsAtFailure injection.calls ∧
        injection.events = (injection.calls.filterMap SinkCall.failure).map (fun cause =>
          .injectionAborted channel ("Aborting probe injection due to: " ++ cause.message)) ∧
        (injection.events ≠ [] → injection.worker.isRunning = false) ∧
        (injection.worker.isRunning = false → ∀ more,
          (injection.after more).calls = injection.calls ∧ (injection.after more).events = injection.events))
      (fun cause failed => ∃ bytes, failed.2.2 = [.write bytes (some cause)] ∧
        bytes.length = sink.size / sampleBytes * sampleBytes) := by
  have size := Meanwhile.sampleBytes_foldl meanwhile ({ sampleBytes }, queue)
  have started := yields_startWith channel sink device
    (meanwhile.foldl (fun state event => event.apply state) ({ sampleBytes }, queue)).1
    (meanwhile.foldl (fun state event => event.apply state) ({ sampleBytes }, queue)).2
  rw [size] at started
  refine ⟨startAmid_nil channel sink.recorded sampleBytes, Action.Yields.mono started ?_ fun _ _ failed => failed⟩
  intro worker started regular moves injection
  obtain ⟨outcome, reached⟩ := regular.after positive moves
  have told : injection.events = _ := reached.told
  refine ⟨reached.rounds.exists_prefill, reached.rounds.writesFit, reached.rounds.waitsServed,
    reached.rounds.endsAtFailure, ?_, ?_, Injection.silent_after⟩
  · rw [reached.rounds.failures]
    exact told
  · intro some
    apply reached.ended
    rintro rfl
    exact some told

/-- A sink that keeps what is written, and refuses the third write. -/
def fullAtThird : Sink (List (List UInt8)) where
  size := 5
  write bytes := fun written =>
    if written.length = 2 then .error (.driver "full") written else .ok () (written ++ [bytes])

/-- Samples of two bytes, and a buffer of five. Three bytes are queued at first, and one more comes later. -/
def filledThrice : Option (Injection (List (List UInt8))) :=
  match start 1 fullAtThird.recorded 2 ((BlockQueue.ofBudget 16).opened.append [1, 2, 3], [], []) with
  | .error _ _ => none
  | .ok worker started =>
    some ((Injection.begun worker started).after
      [.grant (.available 1), .meanwhile (.others fun queue => (queue.tryPush [4]).2), .grant (.available 3),
        .grant (.available 4), .grant (.available 8)])

theorem whole_samples_that_fit_thrice :
    ∃ injection, filledThrice = some injection ∧ WritesFit 5 2 injection.calls ∧
      injection.device.1 = [[1, 2, 3, 0], [4, 0]] ∧
      injection.events = [.injectionAborted 1 "Aborting probe injection due to: full"] := by
  obtain ⟨alone, answered⟩ := whole_samples_that_fit 1 fullAtThird [] []
    ((BlockQueue.ofBudget 16).opened.append [1, 2, 3]) (show 0 < 2 by decide)
  rw [alone] at answered
  have observed : filledThrice.map (fun injection => (injection.device.1, injection.events)) =
      some ([[1, 2, 3, 0], [4, 0]], [.injectionAborted 1 "Aborting probe injection due to: full"]) := by
    decide +kernel
  cases ran : start 1 fullAtThird.recorded 2 ((BlockQueue.ofBudget 16).opened.append [1, 2, 3], [], []) with
  | error cause after =>
    simp only [filledThrice, ran, Option.map_none] at observed
    cases observed
  | ok worker started =>
    simp only [filledThrice, ran, Option.map_some, Option.some.injEq, Prod.mk.injEq] at observed ⊢
    obtain ⟨-, fits, -⟩ := answered.of_ok ran [.grant (.available 1),
      .meanwhile (.others fun queue => (queue.tryPush [4]).2), .grant (.available 3), .grant (.available 4),
      .grant (.available 8)]
    exact ⟨_, rfl, fits, observed.1, observed.2⟩

end Injector

end DspInspector

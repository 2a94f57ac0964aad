import DspInspector.Probe.Extractor
import DspInspector.Proofs.Probe.Reassembly

/-!
# How an extraction ends

A client tells a finished extraction from one that lost data by the last event of the worker. What that event has to be
is said by the readings alone: the router is fed the chunks in front of the end of the stream, and the end counts only
if the router took all of them (`verdict`). The worker comes to just that (`exactly_one_verdict`). One reading either
ends the worker, and then no later reading counts, or leaves it with the same task for the readings that are left
(`EndsAt`, `GoesOn`); a whole run follows by induction along its moves.
-/

namespace DspInspector

namespace Extraction

/-! ## What readings come to -/

/-- The chunks in front of the end or the failure of the stream. -/
def chunks : List Reading → List (List UInt8)
  | .chunk bytes :: readings => bytes :: chunks readings
  | _ => []

/-- What there is to tell of the stream itself. -/
def closing : List Reading → Option WorkerEvent
  | [] => none
  | .chunk _ :: readings => closing readings
  | .ended :: _ => some .extractionFinished
  | .failed cause :: _ => some (.extractionAborted ("Aborting probe extraction due to: " ++ cause.message))

/-- The final event that is due for readings. A chunk that is refused comes before the end of the stream. -/
def verdict (readings : List Reading) (routing : Routing) : Option WorkerEvent :=
  match (Routing.fed (chunks readings) routing).1 with
  | .ok _ => closing readings
  | .error cause => some (.extractionAborted ("Aborting probe extraction due to: " ++ cause.message))

/-- What the router makes of the chunks, and then the verdict. -/
def outcome (readings : List Reading) (routing : Routing) : Routing :=
  let after := (Routing.fed (chunks readings) routing).2
  { after with events := after.events ++ (verdict readings routing).toList }

variable {routing after : Routing} {bytes : List UInt8} {readings : List Reading}

theorem outcome_nil (routing : Routing) : outcome [] routing = routing := by
  show { routing with events := routing.events ++ [] } = routing
  rw [List.append_nil]

theorem closing_eq_none : closing readings = none ↔ readings = (chunks readings).map .chunk := by
  induction readings with
  | nil => exact ⟨fun _ => rfl, fun _ => rfl⟩
  | cons reading readings ih => cases reading <;> simp [closing, chunks, ih]

/-- Only chunks that the router takes, all of them, leave the verdict open. -/
theorem verdict_eq_none : verdict readings routing = none ↔
    readings = (chunks readings).map .chunk ∧ (Routing.fed (chunks readings) routing).1 = .ok () := by
  unfold verdict
  cases (Routing.fed (chunks readings) routing).1 <;> simp [closing_eq_none]

theorem verdict_chunk_of_ok (took : Routing.feed bytes routing = .ok () after) (readings : List Reading) :
    verdict (.chunk bytes :: readings) routing = verdict readings after ∧
      outcome (.chunk bytes :: readings) routing = outcome readings after := by
  have same : Routing.fed (bytes :: chunks readings) routing = Routing.fed (chunks readings) after := by
    rw [Routing.fed, Routing.fed, Action.run, Action.run, (Routing.feedAll_cons_of_ok took _).1]
  have verdicts : verdict (.chunk bytes :: readings) routing = verdict readings after := by
    simp only [verdict, chunks, closing, same]
  exact ⟨verdicts, by simp only [outcome, chunks, verdicts, same]⟩

theorem verdict_chunk_of_error {cause : StreamFault} (refused : Routing.feed bytes routing = .error cause after)
    (readings : List Reading) :
    verdict (.chunk bytes :: readings) routing =
        some (.extractionAborted ("Aborting probe extraction due to: " ++ cause.message)) ∧
      outcome (.chunk bytes :: readings) routing = { after with
        events := after.events ++ [.extractionAborted ("Aborting probe extraction due to: " ++ cause.message)] } := by
  have same : Routing.fed (bytes :: chunks readings) routing = (.error cause, after) := by
    rw [Routing.fed, Action.run, (Routing.feedAll_cons_of_error refused _).1]
  have verdicts : verdict (.chunk bytes :: readings) routing =
      some (.extractionAborted ("Aborting probe extraction due to: " ++ cause.message)) := by
    simp only [verdict, chunks, same]
  refine ⟨verdicts, ?_⟩
  simp only [outcome, chunks, verdicts, same]
  rfl

/-! ## One reading -/

/-- A reading is the last: the worker ends with the verdict, whatever the stream has behind it. -/
structure EndsAt (reading : Reading) (before ended : Extraction) : Prop where
  notRunning : ended.extractor.isRunning = false
  verdict : ∃ event, ∀ later, verdict (reading :: later) before.routing = some event
  outcome : ∀ later, outcome (reading :: later) before.routing = ended.routing

/-- A reading decides nothing: the readings behind it come to the same for the worker that is left. -/
structure GoesOn (reading : Reading) (before left : Extraction) : Prop where
  running : left.extractor.isRunning = true
  verdict : ∀ later, verdict (reading :: later) before.routing = verdict later left.routing
  outcome : ∀ later, outcome (reading :: later) before.routing = outcome later left.routing

/-- What one reading does to a running worker. -/
theorem ends_or_goes_on {extraction : Extraction} (running : extraction.extractor.isRunning = true)
    (reading : Reading) : EndsAt reading extraction (extraction.receive reading) ∨
      GoesOn reading extraction (extraction.receive reading) := by
  unfold receive
  rw [if_pos running]
  cases reading with
  | ended => exact .inl ⟨rfl, ⟨_, fun _ => rfl⟩, fun _ => rfl⟩
  | failed cause => exact .inl ⟨rfl, ⟨_, fun _ => rfl⟩, fun _ => rfl⟩
  | chunk bytes =>
    dsimp only
    cases fed : Routing.feed bytes extraction.routing with
    | ok _ after =>
      have onward := verdict_chunk_of_ok fed
      exact .inr ⟨running, fun later => (onward later).1, fun later => (onward later).2⟩
    | error cause after =>
      have stops := verdict_chunk_of_error fed
      exact .inl ⟨rfl, ⟨_, fun later => (stops later).1⟩, fun later => (stops later).2⟩

/-! ## The readings that a worker takes -/

/-- Of the readings that it could have taken, a worker took those up to the verdict. -/
structure UpToVerdict (routing : Routing) (readings taken : List Reading) : Prop where
  within : taken <+: readings
  decided : verdict taken routing = verdict readings routing
  undecided : verdict readings routing = none → taken = readings
  /-- Before the last of them the verdict was open. -/
  needed : ∀ front, front <+: taken → front ≠ taken → verdict front routing = none

theorem upToVerdict_nil (routing : Routing) : UpToVerdict routing [] [] where
  within := List.prefix_rfl
  decided := rfl
  undecided _ := rfl
  needed _ within other := absurd (List.prefix_nil.mp within) other

variable {reading : Reading} {extraction next : Extraction}

/-- Behind a first reading it is a matter of the readings that follow it. -/
theorem verdict_open_cons {taken : List Reading}
    (needed : ∀ rest, rest <+: taken → rest ≠ taken → verdict (reading :: rest) routing = none) :
    ∀ front, front <+: reading :: taken → front ≠ reading :: taken → verdict front routing = none := by
  intro front within other
  obtain rfl | ⟨rest, rfl, behind⟩ := List.prefix_cons_iff.mp within
  · rfl
  · exact needed rest behind fun same => other (by rw [same])

theorem EndsAt.upToVerdict (ends : EndsAt reading extraction next) (later : List Reading) :
    UpToVerdict extraction.routing (reading :: later) [reading] := by
  obtain ⟨event, told⟩ := ends.verdict
  refine ⟨⟨later, rfl⟩, (told []).trans (told later).symm, fun undecided => ?_, verdict_open_cons ?_⟩
  · rw [told later] at undecided
    cases undecided
  · exact fun rest within other => absurd (List.prefix_nil.mp within) other

theorem GoesOn.upToVerdict (goesOn : GoesOn reading extraction next) {later taken : List Reading}
    (upTo : UpToVerdict next.routing later taken) :
    UpToVerdict extraction.routing (reading :: later) (reading :: taken) := by
  refine ⟨(List.prefix_cons_inj reading).mpr upTo.within, ?_, fun undecided => ?_, verdict_open_cons ?_⟩
  · rw [goesOn.verdict, goesOn.verdict, upTo.decided]
  · rw [goesOn.verdict] at undecided
    rw [upTo.undecided undecided]
  · intro rest within other
    rw [goesOn.verdict]
    exact upTo.needed rest within other

end Extraction

/-! ## A worker at its stream -/

/-- A worker, and what its stream still has for it. -/
structure ExtractionRun where
  extraction : Extraction
  unread : List Reading

inductive ExtractionMove where
  | read
  /-- Somebody stops the worker. A stop in the middle of a reading waits for the worker, so it comes after it. -/
  | stop

namespace ExtractionRun

open Extraction (chunks verdict outcome UpToVerdict)

def begun (points : OrderedMap ProbePoint Nat) (queues : List BlockQueue) (events : List WorkerEvent)
    (script : List Reading) : ExtractionRun :=
  ⟨.start points queues events, script⟩

/-- What a move comes to. A worker that has ended does not turn to its stream. -/
def move (run : ExtractionRun) : ExtractionMove → ExtractionRun
  | .read =>
    match run.extraction.extractor.isRunning, run.unread with
    | true, reading :: unread => ⟨run.extraction.receive reading, unread⟩
    | _, _ => run
  | .stop => { run with extraction := { run.extraction with extractor := run.extraction.extractor.stopped } }

def after (run : ExtractionRun) (moves : List ExtractionMove) : ExtractionRun := moves.foldl move run

/-- How often the worker gets to read before it is stopped. -/
def turns : List ExtractionMove → Nat
  | .read :: moves => turns moves + 1
  | _ => 0

variable {run : ExtractionRun}

/-- A worker that has ended does nothing. -/
theorem move_of_ended (ended : run.extraction.extractor.isRunning = false) (move : ExtractionMove) :
    run.move move = run := by
  obtain ⟨⟨⟨isRunning, router⟩, queues, events⟩, unread⟩ := run
  cases ended
  cases move <;> rfl

theorem after_of_ended (ended : run.extraction.extractor.isRunning = false) (moves : List ExtractionMove) :
    run.after moves = run := by
  induction moves with
  | nil => rfl
  | cons move moves ih =>
    show (run.move move).after moves = run
    rw [move_of_ended ended, ih]

theorem move_read (running : run.extraction.extractor.isRunning = true) {reading : Reading} {unread : List Reading}
    (next : run.unread = reading :: unread) : run.move .read = ⟨run.extraction.receive reading, unread⟩ := by
  simp only [move, running, next]

theorem move_read_of_nil (nothing : run.unread = []) : run.move .read = run := by
  rw [move, nothing]
  cases run.extraction.extractor.isRunning <;> rfl

/-- A run has come to what the readings come to that it had the time for. -/
structure Followed (before : ExtractionRun) (readings : List Reading) (run : ExtractionRun) : Prop where
  outcome : run.extraction.routing = outcome readings before.extraction.routing
  taken : ∃ taken, taken ++ run.unread = before.unread ∧ UpToVerdict before.extraction.routing readings taken
  ended : verdict readings before.extraction.routing ≠ none → run.extraction.extractor.isRunning = false

/-- A run of a running worker. -/
theorem followed_after (running : run.extraction.extractor.isRunning = true) (moves : List ExtractionMove) :
    Followed run (run.unread.take (turns moves)) (run.after moves) := by
  induction moves generalizing run with
  | nil =>
    exact ⟨(Extraction.outcome_nil _).symm, ⟨[], rfl, Extraction.upToVerdict_nil _⟩,
      fun decided => absurd rfl decided⟩
  | cons move moves ih =>
    change Followed run _ ((run.move move).after moves)
    cases move with
    | stop =>
      rw [after_of_ended rfl]
      exact ⟨(Extraction.outcome_nil _).symm, ⟨[], rfl, Extraction.upToVerdict_nil _⟩, fun _ => rfl⟩
    | read =>
      cases unread : run.unread with
      | nil =>
        have followed := ih running
        rw [unread, List.take_nil] at followed
        rwa [move_read_of_nil unread, List.take_nil]
      | cons reading rest =>
        rw [move_read running unread, turns, List.take_succ_cons]
        -- A last reading leaves nothing to do for the other moves; behind any other one a running worker is left.
        rcases Extraction.ends_or_goes_on running reading with ends | goesOn
        · rw [after_of_ended ends.notRunning]
          exact ⟨(ends.outcome _).symm, ⟨[reading], unread.symm, ends.upToVerdict _⟩, fun _ => ends.notRunning⟩
        · obtain ⟨outcome, ⟨taken, split, upTo⟩, ended⟩ :=
            @ih ⟨run.extraction.receive reading, rest⟩ goesOn.running
          refine ⟨outcome.trans (goesOn.outcome _).symm, ⟨reading :: taken, ?_, goesOn.upToVerdict upTo⟩, ?_⟩
          · rw [List.cons_append, split, unread]
          · rw [goesOn.verdict]
            exact ended

/-! ## The whole extraction -/

/-- Emptying the queues does not change which packets are too large. -/
theorem routing_begun (points : OrderedMap ProbePoint Nat) (queues : List BlockQueue) (events : List WorkerEvent)
    (script : List Reading) : (begun points queues events script).extraction.routing =
      Routing.start points (queues.map BoundedQueue.cleared) events := by
  have budgets : (queues.map BoundedQueue.cleared).map BoundedQueue.budget = queues.map BoundedQueue.budget :=
    List.map_map
  have router : Router.start points (queues.map BoundedQueue.cleared) = Router.start points queues := by
    rw [Router.start, Router.start, budgets]
  rw [Routing.start, router]
  rfl

/-- However a worker is stopped, what it pushes and tells is what a router makes of the chunks it had the time for,
followed by the verdict if these readings have one; and behind a verdict it reads, pushes and tells nothing. -/
theorem exactly_one_verdict (points : OrderedMap ProbePoint Nat) (queues : List BlockQueue) (events : List WorkerEvent)
    (script : List Reading) (moves : List ExtractionMove) :
    let fresh := Routing.start points (queues.map BoundedQueue.cleared) events
    let readings := script.take (turns moves)
    let offers := Routing.offersAll (chunks readings) fresh
    let run := (begun points queues events script).after moves
    run.extraction.queues = (Routing.fed (chunks readings) fresh).2.queues ∧
    (∀ channel, Routing.held run.extraction.queues channel =
      (queues[channel]?).map fun _ => Routing.kept channel offers) ∧
    run.extraction.events = events ++ (offers.filter (!·.taken)).map (.packetDropped ·.channel) ++
      (verdict readings fresh).toList ∧
    (verdict readings fresh = none ↔
      readings = (chunks readings).map .chunk ∧ (Routing.fed (chunks readings) fresh).1 = .ok ()) ∧
    (∃ taken, taken ++ run.unread = script ∧ UpToVerdict fresh readings taken) ∧
    (verdict readings fresh ≠ none → ∀ more, run.after more = run) := by
  intro fresh readings offers run
  have start : (begun points queues events script).extraction.routing = fresh := routing_begun _ _ _ _
  obtain ⟨reached, taken, ended⟩ : Followed (begun points queues events script) readings run :=
    followed_after rfl moves
  rw [start] at reached taken ended
  obtain ⟨left, settled⟩ := Routing.fed_settles (chunks readings) fresh
  have total := Routing.addsUp offers fresh
  have queued : run.extraction.queues = (Routing.fed (chunks readings) fresh).2.queues :=
    congrArg Routing.queues reached
  have told : run.extraction.events =
      (Routing.fed (chunks readings) fresh).2.events ++ (verdict readings fresh).toList :=
    congrArg Routing.events reached
  refine ⟨queued, fun channel => ?_, ?_, Extraction.verdict_eq_none, taken,
    fun decided => after_of_ended (ended decided)⟩
  · have emptied : Routing.held fresh.queues channel = (queues[channel]?).map fun _ => [] := by
      show ((queues.map BoundedQueue.cleared)[channel]?).map BoundedQueue.items = _
      rw [List.getElem?_map, Option.map_map]
      rfl
    rw [queued, settled]
    refine (total.queued channel).trans ?_
    rw [emptied, Option.map_map]
    rfl
  · rw [told, settled]
    exact congrArg (· ++ _) total.told

/-- A stream of two packets for a queue that has room for one. There is more behind its end. -/
def sampleScript : List Reading :=
  [.chunk (Routing.sampleStream.take 30), .chunk [], .chunk (Routing.sampleStream.drop 30), .ended, .chunk [1]]

/-- A block of an earlier session is still in the queue when the worker starts. -/
def sampleRun (moves : List ExtractionMove) : ExtractionRun :=
  (begun (.ofList [(⟨7⟩, 0)]) [(BlockQueue.ofBudget 40).opened.append [9]] [] sampleScript).after moves

theorem exactly_one_verdict_finished :
    let run := sampleRun [.read, .read, .read, .read, .read]
    Routing.held run.extraction.queues 0 = some [Routing.samplePacket.writeCompact] ∧
      run.extraction.events = [.packetDropped 0, .extractionFinished] ∧ ∀ more, run.after more = run := by
  obtain ⟨-, queued, told, -, -, frozen⟩ := exactly_one_verdict (.ofList [(⟨7⟩, 0)])
    [(BlockQueue.ofBudget 40).opened.append [9]] [] sampleScript [.read, .read, .read, .read, .read]
  have finished : verdict sampleScript (Routing.start (.ofList [(⟨7⟩, 0)])
      [((BlockQueue.ofBudget 40).opened.append [9]).cleared] []) = some .extractionFinished := by
    decide +kernel
  refine ⟨(queued 0).trans ?_, told.trans ?_, frozen fun undecided => nomatch finished.symm.trans undecided⟩
  · decide +kernel
  · decide +kernel

end ExtractionRun

end DspInspector

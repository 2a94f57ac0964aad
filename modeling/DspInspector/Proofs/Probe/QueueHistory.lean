import DspInspector.Probe.Waiting
import Mathlib.Algebra.Ring.Nat

/-!
# What comes out of a queue

However threads call a queue, fall asleep and wake up, the queue serves one call after the other (`Runs`). What was
accepted leaves it in the same order, what it holds stays within its budget, and once it is closed it hands out what
is left and nothing more.
-/

namespace DspInspector

variable {α : Type}

/-- A thread begins a call, or tries the call again in which it sleeps. When an item is added, the choice tells which
sleeper hears of it. -/
inductive QueueMove (α : Type) where
  | call (thread : Nat) (call : QueueCall α) (choice : Nat)
  | wake (thread : Nat) (choice : Nat)

/-- The thread that makes the move. -/
def QueueMove.thread : QueueMove α → Nat
  | .call thread _ _ | .wake thread _ => thread

namespace QueueCall

/-- The item that the call is to add. -/
def item? : QueueCall α → Option α
  | .tryPush item | .push item => some item
  | _ => none

/-- The call is to take an item. -/
def Takes : QueueCall α → Prop
  | .tryPop | .pop => True
  | _ => False

end QueueCall

/-- A call, the queue that it found, and what it came to. Without a reply its thread fell asleep. -/
structure QueueTurn (α : Type) where
  queue : BoundedQueue α
  call : QueueCall α
  reply : Option (QueueReply α)

namespace QueueTurn

/-- The item that was accepted, if one was. -/
def accepted (turn : QueueTurn α) : List α :=
  match turn.reply with
  | some (.accepted true) => turn.call.item?.toList
  | _ => []

/-- What was answered to a call for an item. -/
def answer? (turn : QueueTurn α) : Option (Option α) :=
  match turn.reply with
  | some (.taken answer) => some answer
  | _ => none

/-- The item that was taken, if one was. -/
def popped (turn : QueueTurn α) : List α := turn.answer?.join.toList

/-- The items that were dropped. -/
def dropped (turn : QueueTurn α) : List α :=
  match turn.call with
  | .clear => turn.queue.items
  | _ => []

/-- The items that left the queue. -/
def departed (turn : QueueTurn α) : List α := turn.popped ++ turn.dropped

variable {queue : BoundedQueue α} {call : QueueCall α} {reply : Option (QueueReply α)}

theorem dropped_of_item? {item : α} (gives : call.item? = some item) : dropped ⟨queue, call, reply⟩ = [] := by
  cases call <;> first | rfl | cases gives

theorem dropped_of_takes (takes : call.Takes) : dropped ⟨queue, call, reply⟩ = [] := by
  cases call <;> first | rfl | cases takes

end QueueTurn

namespace WaitingRoom

/-- The call that a move runs; a thread that does not sleep has none to try again. -/
def running (room : WaitingRoom α) : QueueMove α → Option (QueueCall α)
  | .call _ call _ => some call
  | .wake thread _ =>
    match room.givers.find? (·.thread == thread) with
    | some giver => some (.push giver.goal)
    | none => if room.takers.any (·.thread == thread) then some .pop else none

/-- What a move comes to. -/
def step (room : WaitingRoom α) : QueueMove α → Option (QueueReply α) × WaitingRoom α
  | .call thread call choice => room.call choice thread call
  | .wake thread choice => room.wake choice thread

/-- The room after some moves. -/
def after (room : WaitingRoom α) (moves : List (QueueMove α)) : WaitingRoom α :=
  moves.foldl (fun room move => (room.step move).2) room

/-- The turns that some moves are. -/
def history (room : WaitingRoom α) : List (QueueMove α) → List (QueueTurn α)
  | [] => []
  | move :: moves =>
    ((room.running move).map fun call => ⟨room.queue, call, (room.step move).1⟩).toList ++
      (room.step move).2.history moves

end WaitingRoom

/-! ## One call after the other -/

namespace BoundedQueue

/-- A queue serves a call in one of these ways. -/
inductive Serves (queue : BoundedQueue α) : QueueCall α → Option (QueueReply α) → BoundedQueue α → Prop
  | opened : Serves queue .open (some .nothing) queue.opened
  | closed : Serves queue .close (some .nothing) queue.closed
  | accepted {call : QueueCall α} {item : α} (gives : call.item? = some item) (isOpen : queue.isOpen = true)
      (fits : queue.fits item = true) : Serves queue call (some (.accepted true)) (queue.append item)
  | refused {call : QueueCall α} {item : α} (gives : call.item? = some item)
      (refuses : (queue.isOpen && queue.fits item) = false) : Serves queue call (some (.accepted false)) queue
  | full {item : α} (isOpen : queue.isOpen = true) : Serves queue (.push item) none queue
  | taken {call : QueueCall α} {item : α} {items : List α} (takes : call.Takes) (oldest : queue.items = item :: items) :
      Serves queue call (some (.taken (some item))) { queue with items, load := queue.load - queue.weigh item }
  | missed {call : QueueCall α} (takes : call.Takes) (empty : queue.items = []) :
      Serves queue call (some (.taken none)) queue
  | starved (isOpen : queue.isOpen = true) : Serves queue .pop none queue
  | cleared : Serves queue .clear (some .nothing) queue.cleared

/-- A queue serves some calls one after the other. -/
inductive Runs : BoundedQueue α → List (QueueTurn α) → BoundedQueue α → Prop
  | nil (queue : BoundedQueue α) : Runs queue [] queue
  | cons {queue between last : BoundedQueue α} {call : QueueCall α} {reply : Option (QueueReply α)}
      {turns : List (QueueTurn α)} (serves : queue.Serves call reply between) (rest : Runs between turns last) :
      Runs queue (⟨queue, call, reply⟩ :: turns) last

end BoundedQueue

namespace WaitingRoom

open BoundedQueue

/-- The room without the thread that wakes up for the move. -/
def awake (room : WaitingRoom α) : QueueMove α → WaitingRoom α
  | .call _ _ _ => room
  | .wake thread _ =>
    match room.givers.find? (·.thread == thread) with
    | some _ => { room with givers := room.givers.eraseP (·.thread == thread) }
    | none => { room with takers := room.takers.eraseP (·.thread == thread) }

/-- A thread that is awake does a call in one of these ways. -/
inductive Acts (thread : Nat) (room : WaitingRoom α) :
    QueueCall α → Option (QueueReply α) → WaitingRoom α → Prop
  | opened : Acts thread room .open (some .nothing) { room with queue := room.queue.opened }
  | closed (isOpen : room.queue.isOpen = true) : Acts thread room .close (some .nothing)
      ⟨room.queue.closed, Sleeper.notifyAll room.takers, Sleeper.notifyAll room.givers⟩
  | shut (closed : room.queue.isOpen = false) : Acts thread room .close (some .nothing) room
  | added {call : QueueCall α} {item : α} (gives : call.item? = some item) (isOpen : room.queue.isOpen = true)
      (fits : room.queue.fits item = true) (choice : Nat) : Acts thread room call (some (.accepted true))
      (itemAdded choice { room with queue := room.queue.append item })
  | refused {call : QueueCall α} {item : α} (gives : call.item? = some item)
      (refuses : (room.queue.isOpen && room.queue.fits item) = false) :
      Acts thread room call (some (.accepted false)) room
  | full {item : α} (isOpen : room.queue.isOpen = true) (large : room.queue.fits item = false) :
      Acts thread room (.push item) none { room with givers := room.givers ++ [⟨thread, item, false⟩] }
  | taken {call : QueueCall α} {item : α} {items : List α} (takes : call.Takes)
      (oldest : room.queue.items = item :: items) : Acts thread room call (some (.taken (some item)))
      (roomMade { room with queue := { room.queue with items, load := room.queue.load - room.queue.weigh item } })
  | missed {call : QueueCall α} (takes : call.Takes) (empty : room.queue.items = []) :
      Acts thread room call (some (.taken none)) room
  | starved (isOpen : room.queue.isOpen = true) (empty : room.queue.items = []) :
      Acts thread room .pop none { room with takers := room.takers ++ [⟨thread, (), false⟩] }
  | cleared : Acts thread room .clear (some .nothing) (roomMade { room with queue := room.queue.cleared })

theorem acts_give (choice thread : Nat) (item : α) (room : WaitingRoom α) :
    room.Acts thread (.push item) (room.give choice thread item).1 (room.give choice thread item).2 := by
  unfold give push
  by_cases large : room.queue.budget < room.queue.weigh item
  · have small : room.queue.fits item = false := by
      simp only [fits, decide_eq_false_iff_not]
      omega
    rw [if_pos large]
    exact .refused rfl (by rw [small, Bool.and_false])
  · rw [if_neg large]
    cases isOpen : room.queue.isOpen with
    | false => exact .refused rfl (by rw [isOpen, Bool.false_and])
    | true =>
      cases fits : room.queue.fits item with
      | true => exact .added rfl isOpen fits choice
      | false => exact .full isOpen fits

theorem acts_take (thread : Nat) (room : WaitingRoom α) :
    room.Acts thread .pop (room.take thread).1 (room.take thread).2 := by
  cases items : room.queue.items with
  | nil =>
    cases isOpen : room.queue.isOpen <;>
      simp only [take, pop, tryPop, items, isOpen, List.isEmpty_nil, Bool.and_true, Bool.and_false, if_true, if_false,
        Bool.false_eq_true]
    · exact .missed trivial items
    · exact .starved isOpen items
  | cons item rest =>
    simp only [take, pop, tryPop, items, List.isEmpty_cons, Bool.false_and, if_false, Bool.false_eq_true]
    exact .taken trivial items

theorem acts_call (choice thread : Nat) (room : WaitingRoom α) (call : QueueCall α) :
    room.Acts thread call (room.call choice thread call).1 (room.call choice thread call).2 := by
  cases call with
  | «open» => exact .opened
  | close =>
    cases isOpen : room.queue.isOpen with
    | true =>
      simp only [WaitingRoom.call, isOpen, if_true]
      exact .closed isOpen
    | false =>
      simp only [WaitingRoom.call, isOpen, if_false, Bool.false_eq_true]
      exact .shut isOpen
  | tryPush item =>
    cases takes : room.queue.isOpen && room.queue.fits item with
    | true =>
      obtain ⟨isOpen, fits⟩ := Bool.and_eq_true_iff.mp takes
      simp only [WaitingRoom.call, tryPush, takes, if_true]
      exact .added rfl isOpen fits choice
    | false =>
      simp only [WaitingRoom.call, tryPush, takes, if_false, Bool.false_eq_true]
      exact .refused rfl takes
  | push item => exact acts_give choice thread item room
  | tryPop =>
    cases items : room.queue.items with
    | nil =>
      simp only [WaitingRoom.call, tryPop, items]
      exact .missed trivial items
    | cons item rest =>
      simp only [WaitingRoom.call, tryPop, items]
      exact .taken trivial items
  | pop => exact acts_take thread room
  | clear => exact .cleared

/-- A move does the call that it runs, without its thread among the sleepers, or nothing. -/
theorem acts_step (room : WaitingRoom α) (move : QueueMove α) :
    (∃ call, room.running move = some call ∧
      (room.awake move).Acts move.thread call (room.step move).1 (room.step move).2) ∨
      room.running move = none ∧ (room.step move).2 = room := by
  cases move with
  | call thread call choice => exact .inl ⟨call, rfl, acts_call choice thread room call⟩
  | wake thread choice =>
    cases found : room.givers.find? (·.thread == thread) with
    | some giver =>
      simp only [running, step, wake, found, awake]
      exact .inl ⟨.push giver.goal, rfl, acts_give choice thread giver.goal _⟩
    | none =>
      cases asleep : room.takers.any (·.thread == thread) with
      | true =>
        simp only [running, step, wake, found, awake, asleep, if_true]
        exact .inl ⟨.pop, rfl, acts_take thread _⟩
      | false =>
        simp only [running, step, wake, found, asleep, Bool.false_eq_true, if_false]
        exact .inr ⟨trivial, trivial⟩

/-- What a thread does to a room serves its call. -/
theorem Acts.serves {thread : Nat} {room next : WaitingRoom α} {call : QueueCall α} {reply : Option (QueueReply α)}
    (acts : room.Acts thread call reply next) : room.queue.Serves call reply next.queue := by
  cases acts with
  | opened => exact .opened
  | closed => exact .closed
  | shut shut =>
    have same : room.queue.closed = room.queue := by rw [BoundedQueue.closed, ← shut]
    have served : room.queue.Serves .close (some .nothing) room.queue.closed := .closed
    rwa [same] at served
  | added gives isOpen fits => exact .accepted gives isOpen fits
  | refused gives refuses => exact .refused gives refuses
  | full isOpen => exact .full isOpen
  | taken takes oldest => exact .taken takes oldest
  | missed takes empty => exact .missed takes empty
  | starved isOpen => exact .starved isOpen
  | cleared => exact .cleared

theorem queue_awake (room : WaitingRoom α) (move : QueueMove α) : (room.awake move).queue = room.queue := by
  cases move with
  | call => rfl
  | wake thread choice =>
    cases found : room.givers.find? (·.thread == thread) <;> simp only [awake, found]

/-- A move serves the call that it runs, or leaves the queue as it is. -/
theorem serves_step (room : WaitingRoom α) (move : QueueMove α) :
    (∃ call, room.running move = some call ∧ room.queue.Serves call (room.step move).1 (room.step move).2.queue) ∨
      room.running move = none ∧ (room.step move).2.queue = room.queue := by
  rcases acts_step room move with ⟨call, running, acts⟩ | ⟨idle, same⟩
  · have served := acts.serves
    rw [queue_awake] at served
    exact .inl ⟨call, running, served⟩
  · exact .inr ⟨idle, congrArg queue same⟩

/-- Whatever the threads do, the queue runs through their turns one after the other. -/
theorem runs_history (moves : List (QueueMove α)) : ∀ room : WaitingRoom α,
    Runs room.queue (room.history moves) (room.after moves).queue := by
  induction moves with
  | nil => exact fun room => .nil room.queue
  | cons move moves ih =>
    intro room
    have rest := ih (room.step move).2
    unfold history
    rcases serves_step room move with ⟨call, running, served⟩ | ⟨idle, same⟩
    · rw [running]
      exact .cons served rest
    · rw [idle]
      rw [same] at rest
      exact rest

end WaitingRoom

namespace BoundedQueue

variable {queue next last : BoundedQueue α} {call : QueueCall α} {reply : Option (QueueReply α)}
  {turns : List (QueueTurn α)}

/-! ## The budget -/

/-- The queue has this budget and weighs its items so, its load is what they weigh, and keeps to the budget. -/
structure Measured (limit : Nat) (size : α → Nat) (queue : BoundedQueue α) : Prop where
  budget : queue.budget = limit
  weigh : queue.weigh = size
  load : queue.load = (queue.items.map size).sum
  within : queue.load ≤ limit

variable {limit : Nat} {size : α → Nat}

theorem Serves.measured (serves : queue.Serves call reply next) (measured : queue.Measured limit size) :
    next.Measured limit size := by
  obtain ⟨rfl, rfl, load, within⟩ := measured
  cases serves with
  | opened | closed | refused | full | missed | starved => exact ⟨rfl, rfl, load, within⟩
  | accepted gives isOpen fits =>
    refine ⟨rfl, rfl, ?_, of_decide_eq_true fits⟩
    simp only [append, load, List.map_append, List.map_singleton, List.sum_append, List.sum_singleton]
  | taken takes oldest =>
    rw [oldest, List.map_cons, List.sum_cons] at load
    refine ⟨rfl, rfl, ?_, Nat.le_trans (Nat.sub_le _ _) within⟩
    simp only [load, Nat.add_sub_cancel_left]
  | cleared => exact ⟨rfl, rfl, rfl, Nat.zero_le _⟩

theorem Runs.measured (runs : Runs queue turns last) (measured : queue.Measured limit size) :
    (∀ turn ∈ turns, turn.queue.Measured limit size) ∧ last.Measured limit size := by
  induction runs with
  | nil => exact ⟨by simp, measured⟩
  | cons serves rest ih =>
    obtain ⟨later, ends⟩ := ih (serves.measured measured)
    exact ⟨List.forall_mem_cons.mpr ⟨measured, later⟩, ends⟩

/-! ## The order -/

/-- What was there and what is accepted is what leaves and what is there afterwards. -/
theorem Serves.conserves (serves : queue.Serves call reply next) :
    let turn : QueueTurn α := ⟨queue, call, reply⟩
    queue.items ++ turn.accepted = turn.departed ++ next.items := by
  cases serves with
  | opened | closed | full | starved => exact List.append_nil _
  | accepted gives isOpen fits =>
    simp [QueueTurn.accepted, QueueTurn.departed, QueueTurn.popped, QueueTurn.answer?,
      QueueTurn.dropped_of_item? gives, gives, append]
  | refused gives =>
    simp [QueueTurn.accepted, QueueTurn.departed, QueueTurn.popped, QueueTurn.answer?, QueueTurn.dropped_of_item? gives]
  | taken takes oldest =>
    simp [QueueTurn.accepted, QueueTurn.departed, QueueTurn.popped, QueueTurn.answer?,
      QueueTurn.dropped_of_takes takes, oldest]
  | missed takes empty =>
    simp [QueueTurn.accepted, QueueTurn.departed, QueueTurn.popped, QueueTurn.answer?, QueueTurn.dropped_of_takes takes]
  | cleared => rfl

theorem Runs.conserves (runs : Runs queue turns last) :
    queue.items ++ turns.flatMap QueueTurn.accepted = turns.flatMap QueueTurn.departed ++ last.items := by
  induction runs with
  | nil => exact List.append_nil _
  | cons serves rest ih =>
    rw [List.flatMap_cons, List.flatMap_cons, ← List.append_assoc, serves.conserves, List.append_assoc, ih,
      List.append_assoc]

/-- What an empty queue has accepted has left it, or is there. -/
theorem Runs.accepted_eq (runs : Runs queue turns last) (empty : queue.items = []) :
    turns.flatMap QueueTurn.accepted = turns.flatMap QueueTurn.departed ++ last.items := by
  rw [← runs.conserves, empty, List.nil_append]

/-- What is taken is taken in the order in which it leaves. -/
theorem sublist_departed (turns : List (QueueTurn α)) :
    (turns.flatMap QueueTurn.popped).Sublist (turns.flatMap QueueTurn.departed) := by
  induction turns with
  | nil => exact .slnil
  | cons turn turns ih => exact (List.sublist_append_left _ _).append ih

/-- Nothing is taken from an empty queue that accepts nothing. -/
theorem Runs.dry (runs : Runs queue turns last) (empty : queue.items = [])
    (refused : turns.flatMap QueueTurn.accepted = []) :
    turns.flatMap QueueTurn.popped = [] ∧ last.items = [] := by
  have whole := runs.accepted_eq empty
  rw [refused] at whole
  obtain ⟨left, still⟩ := List.append_eq_nil_iff.mp whole.symm
  exact ⟨List.sublist_nil.mp (left ▸ sublist_departed turns), still⟩

/-! ## A closed queue -/

/-- A closed queue stays closed unless it is opened, takes nothing and lets nobody wait. -/
theorem Serves.of_closed (serves : queue.Serves call reply next) (shut : queue.isOpen = false) (calls : call ≠ .open) :
    next.isOpen = false ∧ QueueTurn.accepted ⟨queue, call, reply⟩ = [] ∧ reply ≠ none := by
  cases serves with
  | opened => exact absurd rfl calls
  | closed => exact ⟨rfl, rfl, Option.some_ne_none _⟩
  | accepted _ isOpen | full isOpen | starved isOpen => cases shut.symm.trans isOpen
  | refused | taken | missed | cleared => exact ⟨shut, rfl, Option.some_ne_none _⟩

theorem Runs.shut (runs : Runs queue turns last) (shut : queue.isOpen = false)
    (never : ∀ turn ∈ turns, turn.call ≠ .open) :
    (∀ turn ∈ turns, turn.reply ≠ none) ∧ turns.flatMap QueueTurn.accepted = [] := by
  induction runs with
  | nil => exact ⟨by simp, rfl⟩
  | cons serves rest ih =>
    obtain ⟨calls, later⟩ := List.forall_mem_cons.mp never
    obtain ⟨still, refused, replies⟩ := serves.of_closed shut calls
    obtain ⟨awake, others⟩ := ih still later
    exact ⟨List.forall_mem_cons.mpr ⟨replies, awake⟩, by rw [List.flatMap_cons, refused, others]; rfl⟩

/-- A call for an item misses only where there is none. -/
theorem Serves.empty_of_missed (serves : queue.Serves call reply next)
    (missed : QueueTurn.answer? ⟨queue, call, reply⟩ = some none) : queue.items = [] := by
  cases serves with
  | missed takes empty => exact empty
  | opened | closed | accepted | refused | full | taken | starved | cleared => cases missed

/-- All that is taken from a closed queue is taken before the first miss, and after a miss nothing is left. -/
theorem Runs.answers (runs : Runs queue turns last) (shut : queue.isOpen = false)
    (never : ∀ turn ∈ turns, turn.call ≠ .open) : ∃ misses, turns.filterMap QueueTurn.answer? =
      (turns.flatMap QueueTurn.popped).map some ++ List.replicate misses none ∧ (misses ≠ 0 → last.items = []) := by
  induction runs with
  | nil => exact ⟨0, rfl, fun some => absurd rfl some⟩
  | @cons queue between last call reply turns serves rest ih =>
    obtain ⟨calls, later⟩ := List.forall_mem_cons.mp never
    obtain ⟨still, refused, -⟩ := serves.of_closed shut calls
    obtain ⟨misses, told, dry⟩ := ih still later
    have popped : QueueTurn.popped ⟨queue, call, reply⟩ = (QueueTurn.answer? ⟨queue, call, reply⟩).join.toList := rfl
    cases answer : QueueTurn.answer? ⟨queue, call, reply⟩ with
    | none =>
      refine ⟨misses, ?_, dry⟩
      rw [List.filterMap_cons_none answer, told, List.flatMap_cons, popped, answer]
      rfl
    | some taken =>
      cases taken with
      | some item =>
        refine ⟨misses, ?_, dry⟩
        rw [List.filterMap_cons_some answer, told, List.flatMap_cons, popped, answer]
        rfl
      | none =>
        -- Nothing is there any more, and nothing is accepted, so nothing is taken from here on.
        have runs := Runs.cons serves rest
        obtain ⟨nothing, empty⟩ := runs.dry (serves.empty_of_missed answer) (runs.shut shut never).2
        refine ⟨misses + 1, ?_, fun _ => empty⟩
        rw [nothing]
        rw [List.flatMap_cons, List.append_eq_nil_iff] at nothing
        rw [List.filterMap_cons_some answer, told, nothing.2]
        rfl

/-- What turns at a closed queue come to: nobody sleeps, nothing is accepted, and what the queue held is handed out in
order or dropped. All that is taken is taken before the first miss, and after a miss nothing is left. -/
structure RunsOut (queue : BoundedQueue α) (turns : List (QueueTurn α)) (last : BoundedQueue α) : Prop where
  awake : ∀ turn ∈ turns, turn.reply ≠ none
  refused : turns.flatMap QueueTurn.accepted = []
  handedOut : queue.items = turns.flatMap QueueTurn.departed ++ last.items
  answers : ∃ misses, turns.filterMap QueueTurn.answer? =
      (turns.flatMap QueueTurn.popped).map some ++ List.replicate misses none ∧ (misses ≠ 0 → last.items = [])

theorem Runs.runsOut (runs : Runs queue turns last) (shut : queue.isOpen = false)
    (never : ∀ turn ∈ turns, turn.call ≠ .open) : RunsOut queue turns last where
  awake := (runs.shut shut never).1
  refused := (runs.shut shut never).2
  handedOut := by rw [← runs.conserves, (runs.shut shut never).2, List.append_nil]
  answers := runs.answers shut never

/-! ## All of it -/

/-- What a queue with this budget comes to that is empty in the beginning. -/
structure FirstInFirstOut (limit : Nat) (size : α → Nat) (turns : List (QueueTurn α)) (last : BoundedQueue α) :
    Prop where
  load : last.load = (last.items.map size).sum
  within : last.load ≤ limit
  conserved : turns.flatMap QueueTurn.accepted = turns.flatMap QueueTurn.departed ++ last.items
  inOrder : (turns.flatMap QueueTurn.popped).Sublist (turns.flatMap QueueTurn.accepted)
  whileOpen : ∀ turn ∈ turns, turn.accepted ≠ [] → turn.queue.isOpen = true
  tryPush : ∀ turn ∈ turns, ∀ item, turn.call = .tryPush item →
    turn.reply = some (.accepted (turn.queue.isOpen && decide ((turn.queue.items.map size).sum + size item ≤ limit)))

theorem Runs.serves (runs : Runs queue turns last) :
    ∀ turn ∈ turns, ∃ next, turn.queue.Serves turn.call turn.reply next := by
  induction runs with
  | nil => simp
  | cons serves rest ih => exact List.forall_mem_cons.mpr ⟨⟨_, serves⟩, ih⟩

theorem Serves.isOpen (serves : queue.Serves call reply next)
    (accepted : QueueTurn.accepted ⟨queue, call, reply⟩ ≠ []) : queue.isOpen = true := by
  cases serves with
  | accepted gives isOpen fits => exact isOpen
  | opened | closed | refused | full | taken | missed | starved | cleared => exact absurd rfl accepted

theorem Serves.tryPush {item : α} (serves : queue.Serves (.tryPush item) reply next) :
    reply = some (.accepted (queue.isOpen && queue.fits item)) := by
  cases serves with
  | accepted gives isOpen fits =>
    cases gives
    rw [isOpen, fits, Bool.and_self]
  | refused gives refuses =>
    cases gives
    rw [refuses]
  | taken takes | missed takes => cases takes

theorem Runs.firstInFirstOut (runs : Runs queue turns last) (measured : queue.Measured limit size)
    (empty : queue.items = []) : FirstInFirstOut limit size turns last where
  load := (runs.measured measured).2.load
  within := (runs.measured measured).2.within
  conserved := runs.accepted_eq empty
  inOrder := by
    rw [runs.accepted_eq empty]
    exact (sublist_departed turns).trans (List.sublist_append_left _ _)
  whileOpen turn member := by
    obtain ⟨next, served⟩ := runs.serves turn member
    exact served.isOpen
  tryPush turn member item calls := by
    obtain ⟨next, served⟩ := runs.serves turn member
    have found := (runs.measured measured).1 turn member
    rw [calls] at served
    rw [served.tryPush, fits, found.load, found.weigh, found.budget]

end BoundedQueue

namespace BlockQueue

open BoundedQueue

/-- A new queue of blocks, at which nobody sleeps. -/
def room (budget : Nat) : WaitingRoom (List UInt8) where
  queue := ofBudget budget

/-- However threads use a queue of blocks, its load is the number of bytes that it holds and stays within the budget.
The blocks that it accepted, while it was open, leave it in the same order. Once it is closed, it hands out the blocks
that are left, and then none, until it is opened again. -/
theorem first_in_first_out (budget : Nat) (moves : List (QueueMove (List UInt8))) :
    FirstInFirstOut budget List.length ((room budget).history moves) ((room budget).after moves).queue ∧
      (((room budget).after moves).queue.isOpen = false → ∀ more,
        (∀ turn ∈ ((room budget).after moves).history more, turn.call ≠ .open) →
          RunsOut ((room budget).after moves).queue (((room budget).after moves).history more)
            (((room budget).after moves).after more).queue) := by
  have fresh : (room budget).queue.Measured budget List.length := ⟨rfl, rfl, rfl, Nat.zero_le budget⟩
  refine ⟨(WaitingRoom.runs_history moves _).firstInFirstOut fresh rfl, fun shut more never => ?_⟩
  exact (WaitingRoom.runs_history more _).runsOut shut never

/-- A block that does not fit makes its thread sleep until the queue is closed. -/
def closing : List (QueueMove (List UInt8)) :=
  [.call 0 .open 0, .call 0 (.push [1]) 0, .call 0 (.push [2, 3]) 0, .call 1 (.push [4]) 0, .call 0 .close 0]

/-- The sleeper wakes up, and the queue is emptied. -/
def emptying : List (QueueMove (List UInt8)) :=
  [.wake 1 0, .call 2 .pop 0, .call 2 .tryPop 0, .call 2 .pop 0]

theorem closing_emptying :
    ((room 3).after closing).queue.items = [[1], [2, 3]] ∧
      (((room 3).after closing).history emptying).map QueueTurn.reply =
        [some (.accepted false), some (.taken (some [1])), some (.taken (some [2, 3])), some (.taken none)] ∧
      RunsOut ((room 3).after closing).queue (((room 3).after closing).history emptying)
        (((room 3).after closing).after emptying).queue := by
  refine ⟨rfl, rfl, (first_in_first_out 3 closing).2 rfl emptying ?_⟩
  intro turn member
  have calls : turn.call ∈ [QueueCall.push [4], .pop, .tryPop, .pop] := List.mem_map_of_mem (f := QueueTurn.call) member
  intro opens
  rw [opens] at calls
  simp at calls

end BlockQueue

end DspInspector

import DspInspector.Proofs.Probe.WakeUps

/-!
# Closing while threads sleep

Closing a queue notifies every thread that sleeps at it, and a notified thread stays so until it runs. What becomes of
its call is decided by the queue that it finds then. While nobody opens the queue again, that queue is closed: the call
ends, and no item gets in. Once it is open again, the thread is one that waits for room or for an item as before.
-/

namespace DspInspector

variable {α γ : Type}

namespace Sleeper

theorem mem_notifyAll {sleepers : List (Sleeper γ)} {thread : Nat} {goal : γ} {notified : Bool}
    (member : ⟨thread, goal, notified⟩ ∈ sleepers) : ⟨thread, goal, true⟩ ∈ notifyAll sleepers :=
  List.mem_map.mpr ⟨_, member, rfl⟩

theorem mem_notifyAt {sleepers : List (Sleeper γ)} {sleeper : Sleeper γ} (notified : sleeper.notified = true) :
    ∀ place, sleeper ∈ sleepers → sleeper ∈ notifyAt place sleepers := by
  induction sleepers with
  | nil => intro place member; cases member
  | cons first sleepers ih =>
    intro place member
    unfold notifyAt
    by_cases told : first.notified = true
    · rw [if_pos told]
      rcases List.mem_cons.mp member with rfl | later
      · exact List.mem_cons_self
      · exact List.mem_cons_of_mem _ (ih place later)
    · rw [if_neg told]
      rcases List.mem_cons.mp member with rfl | later
      · exact absurd notified told
      · cases place with
        | zero => exact List.mem_cons_of_mem _ later
        | succ place => exact List.mem_cons_of_mem _ (ih place later)

theorem threads_notifyAt (sleepers : List (Sleeper γ)) :
    ∀ place, (notifyAt place sleepers).map (·.thread) = sleepers.map (·.thread) := by
  induction sleepers with
  | nil => intro place; rfl
  | cons first sleepers ih =>
    intro place
    unfold notifyAt
    split
    · simp only [List.map_cons, ih]
    · cases place with
      | zero => rfl
      | succ place => simp only [List.map_cons, ih]

theorem find?_of_mem {sleepers : List (Sleeper γ)} (distinct : (sleepers.map (·.thread)).Nodup) {sleeper : Sleeper γ}
    (member : sleeper ∈ sleepers) : sleepers.find? (·.thread == sleeper.thread) = some sleeper := by
  induction sleepers with
  | nil => cases member
  | cons first sleepers ih =>
    obtain ⟨unlike, rest⟩ := List.nodup_cons.mp distinct
    rcases List.mem_cons.mp member with rfl | later
    · exact List.find?_cons_of_pos (beq_self_eq_true _)
    · have other : first.thread ≠ sleeper.thread := by
        intro same
        have listed : sleeper.thread ∈ sleepers.map (·.thread) := List.mem_map_of_mem later
        rw [← same] at listed
        exact unlike listed
      rw [List.find?_cons_of_neg (by simpa using other)]
      exact ih rest later

end Sleeper

open Sleeper

/-- The move is a call that opens the queue. -/
def QueueMove.Opens : QueueMove α → Prop
  | .call _ .open _ => True
  | _ => False

namespace WaitingRoom

variable {room next : WaitingRoom α} {thread : Nat} {call : QueueCall α} {reply : Option (QueueReply α)}

/-! ## Who sleeps -/

theorem takers_awake (room : WaitingRoom α) (move : QueueMove α) : (room.awake move).takers.Sublist room.takers := by
  cases move with
  | call => exact .refl _
  | wake thread choice =>
    cases found : room.givers.find? (·.thread == thread) with
    | some _ =>
      simp only [awake, found]
      exact .refl _
    | none =>
      simp only [awake, found]
      exact List.eraseP_sublist

theorem asleep_awake (room : WaitingRoom α) (move : QueueMove α) :
    (room.awake move).asleep.Sublist room.asleep :=
  ((givers_awake room move).map _).append ((takers_awake room move).map _)

/-- Whoever moves is awake then. -/
theorem thread_notMem_awake (distinct : room.asleep.Nodup) {move : QueueMove α} (admits : room.Admits move) :
    move.thread ∉ (room.awake move).asleep := by
  obtain ⟨givers, takers, apart⟩ := List.nodup_append.mp distinct
  intro member
  rcases List.mem_append.mp member with gives | takes
  · obtain ⟨giver, listed, same⟩ := List.mem_map.mp gives
    exact thread_ne_of_mem_awake givers admits listed same
  · obtain ⟨taker, listed, same⟩ := List.mem_map.mp takes
    cases move with
    | call thread call choice => exact admits (List.mem_append_right _ takes)
    | wake thread choice =>
      cases found : room.givers.find? (·.thread == thread) with
      | some giver =>
        -- The thread gives, so it does not take as well.
        have gives : thread ∈ room.givers.map (·.thread) := by
          have named := List.find?_some found
          rw [← beq_iff_eq.mp named]
          exact List.mem_map_of_mem (List.mem_of_find?_eq_some found)
        simp only [awake, found] at listed
        exact apart thread gives taker.thread (List.mem_map_of_mem listed) same.symm
      | none =>
        simp only [awake, found] at listed
        exact thread_ne_of_mem_eraseP takers listed same

theorem asleep_roomMade (room : WaitingRoom α) : room.roomMade.asleep = room.asleep := by
  simp only [asleep, roomMade, threads_notifyAll]

theorem asleep_itemAdded (choice : Nat) (room : WaitingRoom α) : (room.itemAdded choice).asleep = room.asleep := by
  simp only [asleep, itemAdded, notifyOne, threads_notifyAt]

theorem Acts.asleep (acts : room.Acts thread call reply next) :
    reply ≠ none ∧ next.asleep = room.asleep ∨ reply = none ∧ next.asleep.Perm (thread :: room.asleep) := by
  cases acts with
  | opened | shut | refused | missed => exact .inl ⟨Option.some_ne_none _, rfl⟩
  | closed =>
    refine .inl ⟨Option.some_ne_none _, ?_⟩
    simp only [WaitingRoom.asleep, threads_notifyAll]
  | added => exact .inl ⟨Option.some_ne_none _, asleep_itemAdded _ _⟩
  | taken | cleared => exact .inl ⟨Option.some_ne_none _, asleep_roomMade _⟩
  | full =>
    refine .inr ⟨rfl, ?_⟩
    simp only [WaitingRoom.asleep, List.map_append, List.map_singleton, List.append_assoc, List.singleton_append]
    exact List.perm_middle
  | starved =>
    refine .inr ⟨rfl, ?_⟩
    simp only [WaitingRoom.asleep, List.map_append, List.map_singleton, ← List.append_assoc]
    exact List.perm_append_singleton _ _

/-- No thread sleeps twice. -/
theorem distinct_asleep_step (distinct : room.asleep.Nodup) {move : QueueMove α} (admits : room.Admits move) :
    (room.step move).2.asleep.Nodup := by
  rcases acts_step room move with ⟨call, -, acts⟩ | ⟨-, same⟩
  · have others : (room.awake move).asleep.Nodup := distinct.sublist (asleep_awake room move)
    rcases acts.asleep with ⟨-, still⟩ | ⟨-, joined⟩
    · rw [still]
      exact others
    · rw [joined.nodup_iff]
      exact List.nodup_cons.mpr ⟨thread_notMem_awake distinct admits, others⟩
  · rw [same]
    exact distinct

/-! ## Who sleeps unnotified -/

/-- A taker that was not notified waits at an open queue. -/
def Hopeful (room : WaitingRoom α) : Prop :=
  ∀ taker ∈ room.takers, taker.notified = false → room.queue.isOpen = true

theorem Acts.hopeful (acts : room.Acts thread call reply next) (hopeful : room.Hopeful) : next.Hopeful := by
  intro taker member idle
  cases acts with
  | opened => rfl
  | closed => simp_all [notified_of_mem_notifyAll member]
  | shut | refused | full | taken | missed | cleared => exact hopeful taker member idle
  | added gives isOpen => exact isOpen
  | starved isOpen => exact isOpen

theorem hopeful_step (hopeful : room.Hopeful) (move : QueueMove α) : (room.step move).2.Hopeful := by
  rcases acts_step room move with ⟨call, -, acts⟩ | ⟨-, same⟩
  · refine acts.hopeful fun taker member => ?_
    rw [queue_awake]
    exact hopeful taker ((takers_awake room move).subset member)
  · rw [same]
    exact hopeful

/-! ## What givers hold -/

/-- What a giver waits to add fits into the whole budget. -/
def Holdable (room : WaitingRoom α) : Prop :=
  ∀ giver ∈ room.givers, room.queue.weigh giver.goal ≤ room.queue.budget

theorem weigh_le_of_give {choice : Nat} {item : α} (waits : (room.give choice thread item).1 = none) :
    room.queue.weigh item ≤ room.queue.budget := by
  by_contra large
  rw [not_le] at large
  simp only [give, BoundedQueue.push, if_pos large] at waits
  cases waits

/-- Nobody falls asleep with an item that exceeds the whole budget. -/
theorem weigh_le_of_step {move : QueueMove α} {item : α} (running : room.running move = some (.push item))
    (waits : (room.step move).1 = none) : room.queue.weigh item ≤ room.queue.budget := by
  cases move with
  | call thread call choice =>
    cases running
    exact weigh_le_of_give (waits : (room.give choice thread item).1 = none)
  | wake thread choice =>
    cases found : room.givers.find? (·.thread == thread) with
    | some giver =>
      simp only [WaitingRoom.running, found, Option.some.injEq, QueueCall.push.injEq] at running
      simp only [step, wake, found, running] at waits
      have fits := weigh_le_of_give waits
      exact fits
    | none =>
      simp only [WaitingRoom.running, found] at running
      split at running <;> cases running

theorem Acts.goals (acts : room.Acts thread call reply next) {giver : Sleeper α} (member : giver ∈ next.givers) :
    (∃ before ∈ room.givers, before.goal = giver.goal) ∨ call = .push giver.goal ∧ reply = none := by
  cases acts with
  | opened | shut | added | refused | missed | starved => exact .inl ⟨giver, member, rfl⟩
  | closed | taken | cleared =>
    obtain ⟨before, listed, rfl⟩ := List.mem_map.mp member
    exact .inl ⟨before, listed, rfl⟩
  | full =>
    rcases List.mem_append.mp member with before | new
    · exact .inl ⟨giver, before, rfl⟩
    · rw [List.mem_singleton.mp new]
      exact .inr ⟨rfl, rfl⟩

theorem holdable_step (holdable : room.Holdable) (move : QueueMove α) {limit : Nat} {size : α → Nat}
    (measured : room.queue.Measured limit size) : (room.step move).2.Holdable := by
  rcases acts_step room move with ⟨call, running, acts⟩ | ⟨-, same⟩
  · intro giver member
    have serves := acts.serves
    rw [queue_awake] at serves
    have later := serves.measured measured
    rw [later.weigh, later.budget, ← measured.weigh, ← measured.budget]
    rcases acts.goals member with ⟨before, listed, goal⟩ | ⟨rfl, waits⟩
    · rw [← goal]
      exact holdable before ((givers_awake room move).subset listed)
    · exact weigh_le_of_step running waits
  · rw [same]
    exact holdable

/-! ## Once notified -/

theorem giver_awake {move : QueueMove α} {giver : Sleeper α} (other : move.thread ≠ giver.thread)
    (member : giver ∈ room.givers) : giver ∈ (room.awake move).givers := by
  cases move with
  | call => exact member
  | wake thread choice =>
    cases found : room.givers.find? (·.thread == thread) with
    | some _ =>
      simp only [awake, found]
      change thread ≠ _ at other
      exact (List.mem_eraseP_of_neg (by simpa using other.symm)).mpr member
    | none =>
      simp only [awake, found]
      exact member

theorem taker_awake {move : QueueMove α} {taker : Sleeper Unit} (other : move.thread ≠ taker.thread)
    (member : taker ∈ room.takers) : taker ∈ (room.awake move).takers := by
  cases move with
  | call => exact member
  | wake thread choice =>
    cases found : room.givers.find? (·.thread == thread) with
    | some _ =>
      simp only [awake, found]
      exact member
    | none =>
      simp only [awake, found]
      change thread ≠ _ at other
      exact (List.mem_eraseP_of_neg (by simpa using other.symm)).mpr member

theorem Acts.giver {mover : Nat} {item : α} (acts : room.Acts mover call reply next)
    (member : ⟨thread, item, true⟩ ∈ room.givers) : ⟨thread, item, true⟩ ∈ next.givers := by
  cases acts with
  | opened | shut | added | refused | missed | starved => exact member
  | closed | taken | cleared => exact mem_notifyAll member
  | full => exact List.mem_append_left _ member

theorem Acts.taker {mover : Nat} (acts : room.Acts mover call reply next)
    (member : ⟨thread, (), true⟩ ∈ room.takers) : ⟨thread, (), true⟩ ∈ next.takers := by
  cases acts with
  | opened | shut | refused | full | taken | missed | cleared => exact member
  | closed => exact mem_notifyAll member
  | added => exact mem_notifyAt rfl _ member
  | starved => exact List.mem_append_left _ member

/-- A giver that was notified stays so while other threads move. -/
theorem giver_step {move : QueueMove α} {item : α} (other : move.thread ≠ thread)
    (member : ⟨thread, item, true⟩ ∈ room.givers) : ⟨thread, item, true⟩ ∈ (room.step move).2.givers := by
  rcases acts_step room move with ⟨call, -, acts⟩ | ⟨-, same⟩
  · exact acts.giver (giver_awake other member)
  · rw [same]
    exact member

/-- So does a taker. -/
theorem taker_step {move : QueueMove α} (other : move.thread ≠ thread) (member : ⟨thread, (), true⟩ ∈ room.takers) :
    ⟨thread, (), true⟩ ∈ (room.step move).2.takers := by
  rcases acts_step room move with ⟨call, -, acts⟩ | ⟨-, same⟩
  · exact acts.taker (taker_awake other member)
  · rw [same]
    exact member

theorem step_close_of_open (isOpen : room.queue.isOpen = true) (closer choice : Nat) :
    (room.step (.call closer .close choice)).2 =
      ⟨room.queue.closed, notifyAll room.takers, notifyAll room.givers⟩ := by
  simp only [step, WaitingRoom.call, isOpen, if_true]

theorem step_close_of_shut (shut : room.queue.isOpen = false) (closer choice : Nat) :
    (room.step (.call closer .close choice)).2 = room := by
  simp only [step, WaitingRoom.call, shut, if_false, Bool.false_eq_true]

/-- Whoever sleeps when the queue is closed is notified then, or was before. -/
theorem giver_close (hindered : room.Hindered) {item : α} {notified : Bool}
    (member : ⟨thread, item, notified⟩ ∈ room.givers) (closer choice : Nat) :
    ⟨thread, item, true⟩ ∈ (room.step (.call closer .close choice)).2.givers := by
  cases isOpen : room.queue.isOpen with
  | true =>
    rw [step_close_of_open isOpen]
    exact mem_notifyAll member
  | false =>
    rw [step_close_of_shut isOpen]
    cases notified with
    | true => exact member
    | false => cases isOpen.symm.trans (hindered _ member rfl).1

theorem taker_close (hopeful : room.Hopeful) {notified : Bool}
    (member : ⟨thread, (), notified⟩ ∈ room.takers) (closer choice : Nat) :
    ⟨thread, (), true⟩ ∈ (room.step (.call closer .close choice)).2.takers := by
  cases isOpen : room.queue.isOpen with
  | true =>
    rw [step_close_of_open isOpen]
    exact mem_notifyAll member
  | false =>
    rw [step_close_of_shut isOpen]
    cases notified with
    | true => exact member
    | false => cases isOpen.symm.trans (hopeful _ member rfl)

theorem isOpen_close (room : WaitingRoom α) (closer choice : Nat) :
    (room.step (.call closer .close choice)).2.queue.isOpen = false := by
  cases isOpen : room.queue.isOpen with
  | true =>
    rw [step_close_of_open isOpen]
    rfl
  | false =>
    rw [step_close_of_shut isOpen]
    exact isOpen

/-- Only a call that opens the queue opens it. -/
theorem isOpen_step {move : QueueMove α} (shut : room.queue.isOpen = false) (stays : ¬ move.Opens) :
    (room.step move).2.queue.isOpen = false := by
  rcases serves_step room move with ⟨call, running, serves⟩ | ⟨-, same⟩
  · refine (serves.of_closed shut ?_).1
    rintro rfl
    cases move with
    | call thread call choice =>
      cases running
      exact stays trivial
    | wake thread choice =>
      simp only [WaitingRoom.running] at running
      split at running
      · cases running
      · split at running <;> cases running
  · rw [same]
    exact shut

/-! ## Waking up -/

/-- What becomes of a giver that wakes up: it gives up at a closed queue, and at an open one it adds its item or waits
for room again. -/
structure GiverResumes (queue : BoundedQueue α) (thread : Nat) (item : α)
    (woken : Option (QueueReply α) × WaitingRoom α) : Prop where
  cancelled : queue.isOpen = false →
    woken.1 = some (.accepted false) ∧ woken.2.queue = queue ∧ thread ∉ woken.2.asleep
  added : queue.isOpen = true → queue.fits item = true →
    woken.1 = some (.accepted true) ∧ woken.2.queue = queue.append item
  waits : queue.isOpen = true → queue.fits item = false →
    woken.1 = none ∧ ⟨thread, item, false⟩ ∈ woken.2.givers

/-- What becomes of a taker that wakes up: it takes what is there, gives up at a closed queue, and waits again at an
open one. -/
structure TakerResumes (queue : BoundedQueue α) (thread : Nat) (woken : Option (QueueReply α) × WaitingRoom α) :
    Prop where
  cancelled : queue.isOpen = false ∨ queue.items ≠ [] →
    woken.1 = some (.taken queue.items.head?) ∧ woken.2.queue.items = queue.items.tail ∧ thread ∉ woken.2.asleep
  waits : queue.isOpen = true → queue.items = [] → woken.1 = none ∧ ⟨thread, (), false⟩ ∈ woken.2.takers

theorem step_wake_giver (distinct : room.asleep.Nodup) {item : α} (member : ⟨thread, item, true⟩ ∈ room.givers)
    (choice : Nat) : room.step (.wake thread choice) =
      (room.awake (.wake thread choice)).give choice thread item := by
  have found := find?_of_mem (List.nodup_append.mp distinct).1 member
  simp only [step, wake, awake, found]

theorem step_wake_taker (distinct : room.asleep.Nodup) (member : ⟨thread, (), true⟩ ∈ room.takers)
    (choice : Nat) : room.step (.wake thread choice) = (room.awake (.wake thread choice)).take thread := by
  have takes : thread ∈ room.takers.map (·.thread) := List.mem_map_of_mem member
  have found : room.givers.find? (·.thread == thread) = none := by
    rw [List.find?_eq_none]
    intro giver listed same
    have gives : giver.thread ∈ room.givers.map (·.thread) := List.mem_map_of_mem listed
    exact (List.nodup_append.mp distinct).2.2 giver.thread gives thread takes (beq_iff_eq.mp same)
  have listed : room.takers.any (·.thread == thread) = true :=
    List.any_eq_true.mpr ⟨_, member, beq_self_eq_true _⟩
  simp only [step, wake, awake, found, listed, if_true]

theorem giverResumes (distinct : room.asleep.Nodup) (holdable : room.Holdable) {item : α}
    (member : ⟨thread, item, true⟩ ∈ room.givers) (choice : Nat) :
    GiverResumes room.queue thread item (room.step (.wake thread choice)) := by
  have mine : ¬ room.queue.budget < room.queue.weigh item := not_lt.mpr (holdable _ member)
  have gone : thread ∉ (room.awake (.wake thread choice)).asleep := thread_notMem_awake distinct trivial
  constructor <;> rw [step_wake_giver distinct member]
  · intro shut
    simp only [give, BoundedQueue.push, queue_awake, if_neg mine, shut, Bool.not_false, if_true]
    exact ⟨trivial, trivial, gone⟩
  · intro isOpen fits
    simp only [give, BoundedQueue.push, queue_awake, if_neg mine, isOpen, fits, Bool.not_true, if_true, if_false,
      Bool.false_eq_true]
    exact ⟨trivial, rfl⟩
  · intro isOpen large
    simp only [give, BoundedQueue.push, queue_awake, if_neg mine, isOpen, large, Bool.not_true, if_false,
      Bool.false_eq_true]
    exact ⟨trivial, List.mem_append_right _ (List.mem_singleton_self _)⟩

theorem takerResumes (distinct : room.asleep.Nodup) (member : ⟨thread, (), true⟩ ∈ room.takers) (choice : Nat) :
    TakerResumes room.queue thread (room.step (.wake thread choice)) := by
  have gone : thread ∉ (room.awake (.wake thread choice)).asleep := thread_notMem_awake distinct trivial
  constructor <;> rw [step_wake_taker distinct member]
  · intro ends
    cases items : room.queue.items with
    | nil =>
      have shut : room.queue.isOpen = false := by simpa [items] using ends
      simp only [take, BoundedQueue.pop, BoundedQueue.tryPop, queue_awake, items, shut, List.isEmpty_nil,
        Bool.and_false, if_false, Bool.false_eq_true]
      exact ⟨rfl, rfl, gone⟩
    | cons item rest =>
      simp only [take, BoundedQueue.pop, BoundedQueue.tryPop, queue_awake, items, List.isEmpty_cons,
        Bool.false_and, if_false, Bool.false_eq_true]
      refine ⟨rfl, rfl, ?_⟩
      rw [asleep_roomMade]
      exact gone
  · intro isOpen empty
    simp only [take, BoundedQueue.pop, queue_awake, empty, isOpen, List.isEmpty_nil, Bool.and_true, if_true]
    exact ⟨trivial, List.mem_append_right _ (List.mem_singleton_self _)⟩

/-! ## Runs -/

variable {budget : Nat} {weigh : α → Nat} {moves : List (QueueMove α)}

/-- What is known of the sleepers after moves at a vacant room. -/
structure Orderly (budget : Nat) (weigh : α → Nat) (room : WaitingRoom α) : Prop where
  distinct : room.asleep.Nodup
  hindered : room.Hindered
  hopeful : room.Hopeful
  holdable : room.Holdable
  measured : room.queue.Measured budget weigh

theorem orderly_step (orderly : room.Orderly budget weigh) {move : QueueMove α} (admits : room.Admits move) :
    (room.step move).2.Orderly budget weigh where
  distinct := distinct_asleep_step orderly.distinct admits
  hindered := hindered_step orderly.hindered move
  hopeful := hopeful_step orderly.hopeful move
  holdable := holdable_step orderly.holdable move orderly.measured
  measured := by
    rcases serves_step room move with ⟨call, -, serves⟩ | ⟨-, same⟩
    · exact serves.measured orderly.measured
    · rw [same]
      exact orderly.measured

theorem orderly_after (moves : List (QueueMove α)) : ∀ {room : WaitingRoom α}, room.Orderly budget weigh →
    room.Sequential moves → (room.after moves).Orderly budget weigh := by
  induction moves with
  | nil => intro room orderly _; exact orderly
  | cons move moves ih =>
    intro room orderly ⟨admits, rest⟩
    exact ih (orderly_step orderly admits) rest

theorem orderly_vacant (budget : Nat) (weigh : α → Nat) : (vacant budget weigh).Orderly budget weigh where
  distinct := List.nodup_nil
  hindered := by simp [Hindered, vacant]
  hopeful := by simp [Hopeful, vacant]
  holdable := by simp [Holdable, vacant]
  measured := ⟨rfl, rfl, rfl, Nat.zero_le budget⟩

/-- What every one of the moves keeps holds after them. -/
theorem after_induction {P : WaitingRoom α → Prop} (moves : List (QueueMove α)) : ∀ {room : WaitingRoom α},
    (∀ move ∈ moves, ∀ room, P room → P (room.step move).2) → P room → P (room.after moves) := by
  induction moves with
  | nil => intro room _ holds; exact holds
  | cons move moves ih =>
    intro room keeps holds
    obtain ⟨first, later⟩ := List.forall_mem_cons.mp keeps
    exact ih later (first room holds)

theorem giver_after {item : α} (others : ∀ move ∈ moves, move.thread ≠ thread)
    (member : ⟨thread, item, true⟩ ∈ room.givers) : ⟨thread, item, true⟩ ∈ (room.after moves).givers :=
  after_induction (P := fun room => ⟨thread, item, true⟩ ∈ room.givers) moves
    (fun move listed _ => giver_step (others move listed)) member

theorem taker_after (others : ∀ move ∈ moves, move.thread ≠ thread) (member : ⟨thread, (), true⟩ ∈ room.takers) :
    ⟨thread, (), true⟩ ∈ (room.after moves).takers :=
  after_induction (P := fun room => ⟨thread, (), true⟩ ∈ room.takers) moves
    (fun move listed _ => taker_step (others move listed)) member

theorem isOpen_after (stays : ∀ move ∈ moves, ¬ move.Opens) (shut : room.queue.isOpen = false) :
    (room.after moves).queue.isOpen = false :=
  after_induction (P := fun room => room.queue.isOpen = false) moves
    (fun move listed _ closed => isOpen_step closed (stays move listed)) shut

theorem after_append (room : WaitingRoom α) (moves more : List (QueueMove α)) :
    room.after (moves ++ more) = (room.after moves).after more :=
  List.foldl_append

theorem sequential_append {more : List (QueueMove α)} :
    room.Sequential (moves ++ more) ↔ room.Sequential moves ∧ (room.after moves).Sequential more := by
  induction moves generalizing room with
  | nil => simp [Sequential, after]
  | cons first moves ih => simp only [List.cons_append, Sequential, ih, after, List.foldl_cons, and_assoc]

/-- A thread sleeps at a queue that is closed, and runs again after other threads have moved. What it finds then decides
its call: at a closed queue a giver is refused and a taker takes what is left or nothing, at an open queue the giver
adds its item or waits for room and the taker waits for an item. The queue is still closed if nobody has opened it. -/
theorem cancelled_unless_reopened (budget : Nat) (weigh : α → Nat) (before later : List (QueueMove α))
    (closer choice thread : Nat)
    (sequential : (vacant budget weigh).Sequential (before ++ .call closer .close choice :: later))
    (others : ∀ move ∈ later, move.thread ≠ thread) :
    let closing := (vacant budget weigh).after before
    let room := (vacant budget weigh).after (before ++ .call closer .close choice :: later)
    (∀ giver ∈ closing.givers, giver.thread = thread →
        ∀ chance, GiverResumes room.queue thread giver.goal (room.step (.wake thread chance))) ∧
      (∀ taker ∈ closing.takers, taker.thread = thread →
        ∀ chance, TakerResumes room.queue thread (room.step (.wake thread chance))) ∧
      ((∀ move ∈ later, ¬ move.Opens) → room.queue.isOpen = false) := by
  intro closing room
  obtain ⟨early, late⟩ := sequential_append.mp sequential
  have known : closing.Orderly budget weigh := orderly_after before (orderly_vacant budget weigh) early
  have still : room.Orderly budget weigh := orderly_after _ (orderly_vacant budget weigh) sequential
  have split : room = (closing.step (.call closer .close choice)).2.after later := after_append _ before _
  refine ⟨?_, ?_, fun stays => ?_⟩
  · rintro ⟨_, item, notified⟩ member rfl chance
    have told := giver_after others (giver_close known.hindered member closer choice)
    rw [← split] at told
    exact giverResumes still.distinct still.holdable told chance
  · rintro ⟨_, _, notified⟩ member rfl chance
    have told := taker_after others (taker_close known.hopeful member closer choice)
    rw [← split] at told
    exact takerResumes still.distinct told chance
  · rw [split]
    exact isOpen_after stays (isOpen_close closing closer choice)

/-- One thread waits for an item and has just been told of one, another has an item for which there is no room. -/
def standoff : List (QueueMove (List UInt8)) :=
  [.call 0 .open 0, .call 2 .pop 0, .call 0 (.tryPush [1]) 0, .call 1 (.push [2]) 0]

/-- The queue is closed, and what it held is taken. -/
theorem standoff_cancelled :
    let moves := standoff ++ .call 0 .close 0 :: [.call 0 .tryPop 0]
    (vacant 1 List.length).Sequential moves ∧
      let room := (vacant 1 List.length).after moves
      (room.step (.wake 1 0)).1 = some (.accepted false) ∧ (room.step (.wake 2 0)).1 = some (.taken none) := by
  have sequential : (vacant 1 List.length).Sequential
      (standoff ++ .call 0 .close 0 :: [.call 0 .tryPop 0]) := by decide
  have first := cancelled_unless_reopened 1 List.length standoff [.call 0 .tryPop 0] 0 0 1 sequential (by decide)
  have second := cancelled_unless_reopened 1 List.length standoff [.call 0 .tryPop 0] 0 0 2 sequential (by decide)
  have shut := first.2.2 (by simp [QueueMove.Opens])
  refine ⟨sequential, ?_, ?_⟩
  · exact ((first.1 ⟨1, [2], false⟩ List.mem_cons_self rfl 0).cancelled shut).1
  · exact ((second.2.1 ⟨2, (), true⟩ List.mem_cons_self rfl 0).cancelled (.inl shut)).1

/-- When the queue is open again before they run, the item gets in after all, and the taker waits for another one. -/
theorem standoff_reopened :
    let moves := standoff ++ .call 0 .close 0 :: [.call 0 .open 0, .call 0 .tryPop 0]
    (vacant 1 List.length).Sequential moves ∧
      let closing := (vacant 1 List.length).after standoff
      let room := (vacant 1 List.length).after moves
      closing.givers = [⟨1, [2], false⟩] ∧ closing.takers = [⟨2, (), true⟩] ∧
        (room.step (.wake 1 0)).1 = some (.accepted true) ∧ (room.step (.wake 1 0)).2.queue.items = [[2]] ∧
        (room.step (.wake 2 0)).1 = none ∧ (room.step (.wake 2 0)).2.takers = [⟨2, (), false⟩] := by
  have sequential : (vacant 1 List.length).Sequential
      (standoff ++ .call 0 .close 0 :: [.call 0 .open 0, .call 0 .tryPop 0]) := by decide
  exact ⟨sequential, rfl, rfl, rfl, rfl, rfl, rfl⟩

end WaitingRoom

end DspInspector

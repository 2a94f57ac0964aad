import DspInspector.Proofs.Probe.QueueHistory
import Mathlib.Data.List.Induction

/-!
# Nobody sleeps past a wake-up

Threads that sleep at a queue are woken in time. While a taker sleeps that was not notified, every queued item has a
notified taker on its way to it; while a giver sleeps that was not notified, its item does not fit, and nobody has
closed the queue since the giver fell asleep.
-/

namespace DspInspector

variable {α γ : Type}

namespace Sleeper

/-- How many are notified and have not run since. -/
def roused (sleepers : List (Sleeper γ)) : Nat := sleepers.countP (·.notified)

theorem idle_notifyAll (sleepers : List (Sleeper γ)) : idle (notifyAll sleepers) = 0 := by
  simp [idle, notifyAll]

theorem notified_of_mem_notifyAll {sleepers : List (Sleeper γ)} {sleeper : Sleeper γ}
    (member : sleeper ∈ notifyAll sleepers) : sleeper.notified = true := by
  obtain ⟨asleep, -, rfl⟩ := List.mem_map.mp member
  rfl

theorem threads_notifyAll (sleepers : List (Sleeper γ)) :
    (notifyAll sleepers).map (·.thread) = sleepers.map (·.thread) := by
  simp [notifyAll]

theorem idle_notifyAt_le (sleepers : List (Sleeper γ)) : ∀ place, idle (notifyAt place sleepers) ≤ idle sleepers := by
  induction sleepers with
  | nil => simp [notifyAt]
  | cons sleeper sleepers ih =>
    intro place
    by_cases notified : sleeper.notified = true
    · have rest := ih place
      simp_all [notifyAt, idle]
    · cases place with
      | zero => simp_all [notifyAt, idle]
      | succ place =>
        have rest := ih place
        simp_all [notifyAt, idle]

theorem roused_notifyAt {sleepers : List (Sleeper γ)} :
    ∀ {place}, place < idle sleepers → roused (notifyAt place sleepers) = roused sleepers + 1 := by
  induction sleepers with
  | nil => simp [idle]
  | cons sleeper sleepers ih =>
    intro place inside
    by_cases notified : sleeper.notified = true
    · have rest : roused (notifyAt place sleepers) = roused sleepers + 1 := ih (by simp_all [idle])
      simp_all [notifyAt, roused]
    · cases place with
      | zero => simp_all [notifyAt, roused]
      | succ place =>
        have rest : roused (notifyAt place sleepers) = roused sleepers + 1 := ih (by simp_all [idle])
        simp_all [notifyAt, roused]

theorem roused_notifyOne {sleepers : List (Sleeper γ)} (some : 0 < idle sleepers) (choice : Nat) :
    roused (notifyOne choice sleepers) = roused sleepers + 1 :=
  roused_notifyAt (Nat.mod_lt choice some)

theorem roused_le_eraseP (sleepers : List (Sleeper γ)) (leaving : Sleeper γ → Bool) :
    roused sleepers ≤ roused (sleepers.eraseP leaving) + 1 := by
  induction sleepers with
  | nil => simp [roused]
  | cons sleeper sleepers ih =>
    by_cases leaves : leaving sleeper = true
    · simp only [roused, List.eraseP_cons_of_pos leaves, List.countP_cons]
      split <;> omega
    · simp only [roused, List.eraseP_cons_of_neg leaves, List.countP_cons] at ih ⊢
      omega

theorem thread_ne_of_mem_eraseP {sleepers : List (Sleeper γ)} {thread : Nat}
    (distinct : (sleepers.map (·.thread)).Nodup) {sleeper : Sleeper γ}
    (member : sleeper ∈ sleepers.eraseP (·.thread == thread)) : sleeper.thread ≠ thread := by
  induction sleepers with
  | nil => simp at member
  | cons first sleepers ih =>
    obtain ⟨unlike, rest⟩ := List.nodup_cons.mp distinct
    by_cases same : first.thread = thread
    · rw [List.eraseP_cons_of_pos (by simpa using same)] at member
      intro again
      have listed : sleeper.thread ∈ sleepers.map (·.thread) := List.mem_map_of_mem member
      rw [again, ← same] at listed
      exact unlike listed
    · rw [List.eraseP_cons_of_neg (by simpa using same)] at member
      rcases List.mem_cons.mp member with rfl | later
      · exact same
      · exact ih rest later

theorem idle_eraseP_le (sleepers : List (Sleeper γ)) (leaving : Sleeper γ → Bool) :
    idle (sleepers.eraseP leaving) ≤ idle sleepers :=
  List.Sublist.countP_le List.eraseP_sublist

end Sleeper

open Sleeper

/-- The move is a call that closes the queue. -/
def QueueMove.Closes : QueueMove α → Prop
  | .call _ .close _ => True
  | _ => False

namespace WaitingRoom

/-! ## Takers -/

/-- While a taker sleeps that was not notified, there are no more items than notified takers. -/
def Attended (room : WaitingRoom α) : Prop :=
  0 < idle room.takers → room.queue.items.length ≤ roused room.takers

theorem Acts.attended {thread : Nat} {room next : WaitingRoom α} {call : QueueCall α} {reply : Option (QueueReply α)}
    (acts : room.Acts thread call reply next)
    (mine : 0 < idle room.takers → room.queue.items.length ≤ roused room.takers + 1)
    (others : ¬ call.Takes → room.Attended) : next.Attended := by
  cases acts with
  | opened => exact others (by simp [QueueCall.Takes])
  | closed =>
    intro some
    rw [idle_notifyAll] at some
    exact absurd some (Nat.lt_irrefl 0)
  | shut => exact others (by simp [QueueCall.Takes])
  | @added _ item gives isOpen fits choice =>
    have attended : room.Attended := others (by cases call <;> simp_all [QueueCall.Takes, QueueCall.item?])
    intro some
    have before : 0 < idle room.takers := Nat.lt_of_lt_of_le some (idle_notifyAt_le _ _)
    have enough := attended before
    show (room.queue.items ++ [item]).length ≤ roused (notifyOne choice room.takers)
    rw [roused_notifyOne before, List.length_append, List.length_singleton]
    omega
  | refused gives => exact others (by cases call <;> simp_all [QueueCall.Takes, QueueCall.item?])
  | full => exact others (by simp [QueueCall.Takes])
  | @taken _ item items takes oldest =>
    intro some
    have enough := mine some
    rw [oldest, List.length_cons] at enough
    exact Nat.le_of_succ_le_succ enough
  | missed takes empty =>
    intro some
    simp [empty]
  | starved isOpen empty =>
    intro some
    simp [empty]
  | cleared =>
    intro some
    exact Nat.zero_le _

theorem attended_step {room : WaitingRoom α} (attended : room.Attended) (move : QueueMove α) :
    (room.step move).2.Attended := by
  rcases acts_step room move with ⟨call, running, acts⟩ | ⟨-, same⟩
  · cases move with
    | call thread call choice => exact acts.attended (fun some => Nat.le_succ_of_le (attended some)) fun _ => attended
    | wake thread choice =>
      cases found : room.givers.find? (·.thread == thread) with
      | some giver =>
        simp only [awake, found] at acts
        exact acts.attended (fun some => Nat.le_succ_of_le (attended some)) fun _ => attended
      | none =>
        -- The taker that wakes up may be one of the notified ones, so there may be one fewer of these than items.
        have takes : call.Takes := by
          simp only [WaitingRoom.running, found] at running
          split at running <;> cases running
          trivial
        simp only [awake, found] at acts
        refine acts.attended (fun some => ?_) fun spurned => absurd takes spurned
        have before := attended (Nat.lt_of_lt_of_le some (idle_eraseP_le _ _))
        exact Nat.le_trans before (roused_le_eraseP _ _)
  · rw [same]
    exact attended

/-! ## Givers -/

/-- A giver that was not notified has an item that does not fit into the open queue. -/
def Hindered (room : WaitingRoom α) : Prop :=
  ∀ giver ∈ room.givers, giver.notified = false → room.queue.isOpen = true ∧ room.queue.fits giver.goal = false

/-- A giver that was not notified was there before the act, or fell asleep by it. -/
theorem Acts.givers {thread : Nat} {room next : WaitingRoom α} {call : QueueCall α} {reply : Option (QueueReply α)}
    (acts : room.Acts thread call reply next) {giver : Sleeper α} (member : giver ∈ next.givers)
    (idle : giver.notified = false) :
    giver ∈ room.givers ∨ giver.thread = thread ∧ call = .push giver.goal ∧ reply = none := by
  cases acts with
  | opened | shut | added | refused | missed | starved => exact .inl member
  | closed | taken | cleared => simp_all [notified_of_mem_notifyAll member]
  | full =>
    rcases List.mem_append.mp member with before | new
    · exact .inl before
    · rw [List.mem_singleton.mp new]
      exact .inr ⟨rfl, rfl, rfl⟩

theorem Acts.hindered {thread : Nat} {room next : WaitingRoom α} {call : QueueCall α} {reply : Option (QueueReply α)}
    (acts : room.Acts thread call reply next) (hindered : room.Hindered) : next.Hindered := by
  intro giver member idle
  cases acts with
  | opened => exact ⟨rfl, (hindered giver member idle).2⟩
  | closed | taken | cleared => simp_all [notified_of_mem_notifyAll member]
  | shut | refused | missed | starved => exact hindered giver member idle
  | @added _ item =>
    obtain ⟨isOpen, large⟩ := hindered giver member idle
    refine ⟨isOpen, ?_⟩
    simp only [BoundedQueue.fits, decide_eq_false_iff_not] at large ⊢
    show ¬ room.queue.load + room.queue.weigh item + room.queue.weigh giver.goal ≤ room.queue.budget
    omega
  | full isOpen large =>
    rcases List.mem_append.mp member with before | new
    · exact hindered giver before idle
    · rw [List.mem_singleton.mp new]
      exact ⟨isOpen, large⟩

theorem givers_awake (room : WaitingRoom α) (move : QueueMove α) : (room.awake move).givers.Sublist room.givers := by
  cases move with
  | call => exact .refl _
  | wake thread choice =>
    cases found : room.givers.find? (·.thread == thread) with
    | some _ =>
      simp only [awake, found]
      exact List.eraseP_sublist
    | none =>
      simp only [awake, found]
      exact .refl _

theorem hindered_awake {room : WaitingRoom α} (hindered : room.Hindered) (move : QueueMove α) :
    (room.awake move).Hindered := by
  intro giver member
  rw [queue_awake]
  exact hindered giver ((givers_awake room move).subset member)

theorem hindered_step {room : WaitingRoom α} (hindered : room.Hindered) (move : QueueMove α) :
    (room.step move).2.Hindered := by
  rcases acts_step room move with ⟨call, -, acts⟩ | ⟨-, same⟩
  · exact acts.hindered (hindered_awake hindered move)
  · rw [same]
    exact hindered

/-! ## Runs -/

/-- The threads that sleep. -/
def asleep (room : WaitingRoom α) : List Nat := room.givers.map (·.thread) ++ room.takers.map (·.thread)

/-- A thread that sleeps makes no call. -/
def Admits (room : WaitingRoom α) : QueueMove α → Prop
  | .call thread _ _ => thread ∉ room.asleep
  | .wake _ _ => True

/-- Each thread makes one call after the other. -/
def Sequential (room : WaitingRoom α) : List (QueueMove α) → Prop
  | [] => True
  | move :: moves => room.Admits move ∧ (room.step move).2.Sequential moves

instance (room : WaitingRoom α) : (move : QueueMove α) → Decidable (room.Admits move)
  | .call thread _ _ => inferInstanceAs (Decidable (thread ∉ room.asleep))
  | .wake _ _ => .isTrue trivial

instance decidableSequential : (room : WaitingRoom α) → (moves : List (QueueMove α)) → Decidable (room.Sequential moves)
  | _, [] => .isTrue trivial
  | room, move :: moves =>
    have := decidableSequential (room.step move).2 moves
    inferInstanceAs (Decidable (room.Admits move ∧ (room.step move).2.Sequential moves))

theorem after_concat (room : WaitingRoom α) (moves : List (QueueMove α)) (move : QueueMove α) :
    room.after (moves ++ [move]) = ((room.after moves).step move).2 := by
  simp [after, List.foldl_append]

theorem sequential_concat {room : WaitingRoom α} {moves : List (QueueMove α)} {move : QueueMove α} :
    room.Sequential (moves ++ [move]) ↔ room.Sequential moves ∧ (room.after moves).Admits move := by
  induction moves generalizing room with
  | nil => simp [Sequential, after]
  | cons first moves ih =>
    simp only [List.cons_append, Sequential, ih, after, List.foldl_cons, and_assoc]

/-- No two givers are the same thread. -/
def Distinct (room : WaitingRoom α) : Prop := (room.givers.map (·.thread)).Nodup

/-- The others are other threads. -/
theorem thread_ne_of_mem_awake {room : WaitingRoom α} (distinct : room.Distinct) {move : QueueMove α}
    (admits : room.Admits move) {giver : Sleeper α} (member : giver ∈ (room.awake move).givers) :
    giver.thread ≠ move.thread := by
  cases move with
  | call thread call choice =>
    rintro same
    have asleep : giver.thread ∈ room.asleep := List.mem_append_left _ (List.mem_map_of_mem member)
    rw [same] at asleep
    exact admits asleep
  | wake thread choice =>
    cases found : room.givers.find? (·.thread == thread) with
    | some _ =>
      simp only [awake, found] at member
      exact thread_ne_of_mem_eraseP distinct member
    | none =>
      simp only [awake, found] at member
      have other := List.find?_eq_none.mp found giver member
      rwa [beq_iff_eq] at other

theorem Acts.distinct {thread : Nat} {room next : WaitingRoom α} {call : QueueCall α} {reply : Option (QueueReply α)}
    (acts : room.Acts thread call reply next) (distinct : room.Distinct)
    (other : ∀ giver ∈ room.givers, giver.thread ≠ thread) : next.Distinct := by
  cases acts with
  | opened | shut | added | refused | missed | starved => exact distinct
  | closed | taken | cleared =>
    show (List.map _ (notifyAll room.givers)).Nodup
    rw [threads_notifyAll]
    exact distinct
  | full =>
    show (List.map _ (room.givers ++ [_])).Nodup
    rw [List.map_append, List.map_singleton]
    refine List.nodup_append.mpr ⟨distinct, List.pairwise_singleton _ _, ?_⟩
    intro before member after last
    obtain ⟨giver, listed, rfl⟩ := List.mem_map.mp member
    rw [List.mem_singleton.mp last]
    exact other giver listed

theorem distinct_step {room : WaitingRoom α} (distinct : room.Distinct) {move : QueueMove α}
    (admits : room.Admits move) : (room.step move).2.Distinct := by
  rcases acts_step room move with ⟨call, -, acts⟩ | ⟨-, same⟩
  · refine acts.distinct (distinct.sublist ((givers_awake room move).map _)) fun giver => ?_
    exact thread_ne_of_mem_awake distinct admits
  · rw [same]
    exact distinct

/-- Nobody stays unnotified through a closing. -/
theorem Acts.not_closing {thread : Nat} {room next : WaitingRoom α} {call : QueueCall α}
    {reply : Option (QueueReply α)} (acts : room.Acts thread call reply next) (hindered : room.Hindered)
    {giver : Sleeper α} (member : giver ∈ next.givers) (idle : giver.notified = false) : call ≠ .close := by
  rintro rfl
  cases acts with
  | closed => simp_all [notified_of_mem_notifyAll member]
  | shut closed => simp_all [(hindered giver member idle).1]
  | added gives | refused gives => cases gives
  | taken takes | missed takes => cases takes

/-- The move makes the thread fall asleep with its item. -/
structure FallsAsleep (room : WaitingRoom α) (move : QueueMove α) (giver : Sleeper α) : Prop where
  thread : move.thread = giver.thread
  running : room.running move = some (.push giver.goal)
  reply : (room.step move).1 = none

/-- A giver that was not notified fell asleep just now, or slept through a move that did not close the queue. -/
theorem idle_step {room : WaitingRoom α} (hindered : room.Hindered) (distinct : room.Distinct) {move : QueueMove α}
    (admits : room.Admits move) {giver : Sleeper α} (member : giver ∈ (room.step move).2.givers)
    (idle : giver.notified = false) : room.FallsAsleep move giver ∨
      giver ∈ room.givers ∧ move.thread ≠ giver.thread ∧ ¬ move.Closes := by
  rcases acts_step room move with ⟨call, running, acts⟩ | ⟨still, same⟩
  · rcases acts.givers member idle with before | ⟨thread, rfl, reply⟩
    · refine .inr ⟨(givers_awake room move).subset before, (thread_ne_of_mem_awake distinct admits before).symm, ?_⟩
      have going := acts.not_closing (hindered_awake hindered move) member idle
      intro closes
      cases move with
      | call thread call' choice => cases call' <;> simp_all [QueueMove.Closes, WaitingRoom.running]
      | wake => exact closes
    · exact .inl ⟨thread.symm, running, reply⟩
  · rw [same] at member
    cases move with
    | call => cases still
    | wake thread choice =>
      refine .inr ⟨member, ?_, id⟩
      rintro rfl
      have found : (room.givers.find? (·.thread == giver.thread)).isSome := by
        rw [List.find?_isSome]
        exact ⟨giver, member, beq_self_eq_true _⟩
      cases sleeper : room.givers.find? (·.thread == giver.thread) <;>
        simp_all [WaitingRoom.running]

/-- Since the move that made the giver fall asleep, its thread has slept and nobody has closed the queue. -/
def SleepsSince (start : WaitingRoom α) (moves : List (QueueMove α)) (giver : Sleeper α) : Prop :=
  ∃ before move later, moves = before ++ move :: later ∧ (start.after before).FallsAsleep move giver ∧
    ∀ other ∈ later, other.thread ≠ giver.thread ∧ ¬ other.Closes

theorem SleepsSince.concat {start : WaitingRoom α} {moves : List (QueueMove α)} {giver : Sleeper α}
    (sleeps : start.SleepsSince moves giver) {move : QueueMove α} (other : move.thread ≠ giver.thread)
    (going : ¬ move.Closes) : start.SleepsSince (moves ++ [move]) giver := by
  obtain ⟨before, first, later, rfl, falls, undisturbed⟩ := sleeps
  refine ⟨before, first, later ++ [move], by simp, falls, fun next member => ?_⟩
  rcases List.mem_append.mp member with earlier | last
  · exact undisturbed next earlier
  · rw [List.mem_singleton.mp last]
    exact ⟨other, going⟩

/-- A room without sleepers around a new queue. -/
def vacant (budget : Nat) (weigh : α → Nat) : WaitingRoom α where
  queue := { budget, weigh }

variable {budget : Nat} {weigh : α → Nat} {moves : List (QueueMove α)}

/-- What holds after moves at a vacant room. -/
structure Watched (budget : Nat) (weigh : α → Nat) (moves : List (QueueMove α)) : Prop where
  attended : ((vacant budget weigh).after moves).Attended
  hindered : ((vacant budget weigh).after moves).Hindered
  distinct : ((vacant budget weigh).after moves).Distinct
  since : ∀ giver ∈ ((vacant budget weigh).after moves).givers, giver.notified = false →
    (vacant budget weigh).SleepsSince moves giver

theorem watched (sequential : (vacant budget weigh).Sequential moves) : Watched budget weigh moves := by
  induction moves using List.reverseRecOn with
  | nil =>
    refine ⟨fun some => absurd some (Nat.lt_irrefl 0), ?_, List.nodup_nil, ?_⟩ <;> simp [Hindered, vacant, after]
  | append_singleton moves move ih =>
    obtain ⟨earlier, admits⟩ := sequential_concat.mp sequential
    obtain ⟨attended, hindered, distinct, since⟩ := ih earlier
    refine ⟨?_, ?_, ?_, ?_⟩ <;> rw [after_concat]
    · exact attended_step attended move
    · exact hindered_step hindered move
    · exact distinct_step distinct admits
    · intro giver member idle
      rcases idle_step hindered distinct admits member idle with falls | ⟨before, other, going⟩
      · exact ⟨moves, move, [], rfl, falls, by simp⟩
      · exact (since giver before idle).concat other going

/-- Whatever threads do at a queue, nobody sleeps past a wake-up: while a taker sleeps that was not notified, as many
takers are notified and have yet to run as there are items; and a giver that sleeps and was not notified has an item
for which there is no room, and nobody has closed the queue since it fell asleep. -/
theorem no_lost_wake_up (budget : Nat) (weigh : α → Nat) (moves : List (QueueMove α))
    (sequential : (vacant budget weigh).Sequential moves) :
    let room := (vacant budget weigh).after moves
    (0 < idle room.takers → room.queue.items.length ≤ roused room.takers) ∧
      ∀ giver ∈ room.givers, giver.notified = false →
        budget < (room.queue.items.map weigh).sum + weigh giver.goal ∧ room.queue.isOpen = true ∧
          (vacant budget weigh).SleepsSince moves giver := by
  obtain ⟨attended, hindered, -, since⟩ := watched sequential
  have fresh : (vacant budget weigh).queue.Measured budget weigh := ⟨rfl, rfl, rfl, Nat.zero_le budget⟩
  have measured := ((runs_history moves _).measured fresh).2
  refine ⟨attended, fun giver member idle => ?_⟩
  obtain ⟨isOpen, large⟩ := hindered giver member idle
  refine ⟨?_, isOpen, since giver member idle⟩
  simpa [BoundedQueue.fits, measured.load, measured.weigh, measured.budget] using large

/-- Two takers sleep, one hears of the item that is added, and a third thread has an item that is too large for now. -/
def crowd : List (QueueMove (List UInt8)) :=
  [.call 0 .open 0, .call 1 .pop 0, .call 2 .pop 0, .call 0 (.tryPush [1]) 0, .call 3 (.push [2, 3, 4]) 0]

theorem crowd_wakes : (vacant 3 List.length).Sequential crowd ∧
    let room := (vacant 3 List.length).after crowd
    room.takers = [⟨1, (), true⟩, ⟨2, (), false⟩] ∧ room.givers = [⟨3, [2, 3, 4], false⟩] ∧
      room.queue.items.length ≤ roused room.takers ∧
      3 < (room.queue.items.map List.length).sum + 3 ∧
      (vacant 3 List.length).SleepsSince crowd ⟨3, [2, 3, 4], false⟩ := by
  have sequential : (vacant 3 List.length).Sequential crowd := by decide
  obtain ⟨attended, hindered⟩ := no_lost_wake_up 3 List.length crowd sequential
  obtain ⟨large, -, since⟩ := hindered ⟨3, [2, 3, 4], false⟩ List.mem_cons_self rfl
  exact ⟨sequential, rfl, rfl, attended (by decide), large, since⟩

end WaitingRoom

end DspInspector

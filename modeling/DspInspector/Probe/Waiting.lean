import DspInspector.Probe.Queue

/-!
# Threads at a queue

Several threads share a queue. A call runs as one step, unless it has to wait: then its thread sleeps
until the queue has changed in its favour, and runs the call again as another step. A sleeping thread
is notified by the step that makes room or adds an item; it may also wake up without having been
notified. Closing an open queue and taking or clearing items notify all they concern, adding an item
notifies one sleeping taker, and which one is not determined.
-/

namespace DspInspector

/-- A thread asleep in a call. -/
structure Sleeper (γ : Type) where
  thread : Nat
  /-- What the thread waits to do. -/
  goal : γ
  notified : Bool

namespace Sleeper

variable {γ : Type}

/-- Notifies everybody. -/
def notifyAll (sleepers : List (Sleeper γ)) : List (Sleeper γ) :=
  sleepers.map fun sleeper => { sleeper with notified := true }

/-- Notifies the sleeper that has `place` sleepers before it which are not notified yet. -/
def notifyAt : (place : Nat) → List (Sleeper γ) → List (Sleeper γ)
  | _, [] => []
  | place, sleeper :: sleepers =>
    if sleeper.notified then sleeper :: notifyAt place sleepers
    else
      match place with
      | 0 => { sleeper with notified := true } :: sleepers
      | place + 1 => sleeper :: notifyAt place sleepers

/-- How many are not notified yet. -/
def idle (sleepers : List (Sleeper γ)) : Nat := sleepers.countP fun sleeper => !sleeper.notified

/-- Notifies one of those who are not notified yet, if there are any; `choice` tells which. -/
def notifyOne (choice : Nat) (sleepers : List (Sleeper γ)) : List (Sleeper γ) :=
  notifyAt (choice % idle sleepers) sleepers

end Sleeper

/-- A queue and the threads asleep at it. -/
structure WaitingRoom (α : Type) where
  queue : BoundedQueue α
  takers : List (Sleeper Unit) := []
  /-- The goal of a giver is the item it wants to add. -/
  givers : List (Sleeper α) := []

/-- A call on a queue. -/
inductive QueueCall (α : Type) where
  | open
  | close
  | tryPush (item : α)
  | push (item : α)
  | tryPop
  | pop
  | clear

/-- What a call returns. -/
inductive QueueReply (α : Type) where
  | nothing
  | accepted (yes : Bool)
  | taken (item : Option α)

namespace WaitingRoom

variable {α : Type}

/-- Tells one sleeping taker about an item. -/
def itemAdded (choice : Nat) (room : WaitingRoom α) : WaitingRoom α :=
  { room with takers := Sleeper.notifyOne choice room.takers }

/-- Tells the sleeping givers that there is more room. -/
def roomMade (room : WaitingRoom α) : WaitingRoom α :=
  { room with givers := Sleeper.notifyAll room.givers }

/-- The step of a thread that adds an item and may wait. -/
def give (choice thread : Nat) (item : α) (room : WaitingRoom α) :
    Option (QueueReply α) × WaitingRoom α :=
  match room.queue.push item with
  | (.waits, _) => (none, { room with givers := room.givers ++ [⟨thread, item, false⟩] })
  | (.finished true, queue) => (some (.accepted true), itemAdded choice { room with queue })
  | (.finished false, _) => (some (.accepted false), room)

/-- The step of a thread that takes an item and may wait. -/
def take (thread : Nat) (room : WaitingRoom α) : Option (QueueReply α) × WaitingRoom α :=
  match room.queue.pop with
  | (.waits, _) => (none, { room with takers := room.takers ++ [⟨thread, (), false⟩] })
  | (.finished (some item), queue) => (some (.taken (some item)), roomMade { room with queue })
  | (.finished none, _) => (some (.taken none), room)

/-- The first step of a call: its reply, or none when its thread fell asleep. -/
def call (choice thread : Nat) (room : WaitingRoom α) :
    QueueCall α → Option (QueueReply α) × WaitingRoom α
  | .open => (some .nothing, { room with queue := room.queue.opened })
  | .close =>
    if room.queue.isOpen then
      (some .nothing, {
        queue := room.queue.closed
        takers := Sleeper.notifyAll room.takers
        givers := Sleeper.notifyAll room.givers })
    else (some .nothing, room)
  | .tryPush item =>
    match room.queue.tryPush item with
    | (true, queue) => (some (.accepted true), itemAdded choice { room with queue })
    | (false, _) => (some (.accepted false), room)
  | .push item => give choice thread item room
  | .tryPop =>
    match room.queue.tryPop with
    | (some item, queue) => (some (.taken (some item)), roomMade { room with queue })
    | (none, _) => (some (.taken none), room)
  | .pop => take thread room
  | .clear => (some .nothing, roomMade { room with queue := room.queue.cleared })

/-- A sleeping thread wakes up and runs its call again: its reply, or none when it fell asleep again or
did not sleep. -/
def wake (choice thread : Nat) (room : WaitingRoom α) : Option (QueueReply α) × WaitingRoom α :=
  match room.givers.find? (·.thread == thread) with
  | some giver =>
    give choice thread giver.goal
      { room with givers := room.givers.eraseP (·.thread == thread) }
  | none =>
    if room.takers.any (·.thread == thread) then
      take thread { room with takers := room.takers.eraseP (·.thread == thread) }
    else (none, room)

end WaitingRoom

end DspInspector

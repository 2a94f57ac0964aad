/-!
# Bounded queues

A queue between a worker and its clients. What it holds is bounded by a budget: every item has a
weight, and the weights of the queued items may not add up to more. A closed queue takes nothing
more, but still hands out what it holds, so that a consumer sees everything before the end.
-/

namespace DspInspector

/-- A queue of items, the oldest first. -/
structure BoundedQueue (α : Type) where
  budget : Nat
  weigh : α → Nat
  items : List α := []
  /-- What the queued items weigh together. -/
  load : Nat := 0
  isOpen : Bool := false

/-- A queue of blocks of bytes, weighed by their length. -/
abbrev BlockQueue := BoundedQueue (List UInt8)

/-- A closed queue of blocks without blocks. -/
def BlockQueue.ofBudget (budget : Nat) : BlockQueue where
  budget
  weigh := List.length

/-- What a call that may wait comes to when its turn is there. -/
inductive Turn (β : Type) where
  | finished (result : β)
  /-- Nothing changed; the call has to wait for another turn. -/
  | waits

namespace BoundedQueue

variable {α : Type}

/-- The queue, taking items. -/
def opened (queue : BoundedQueue α) : BoundedQueue α := { queue with isOpen := true }

/-- The queue, taking no items. -/
def closed (queue : BoundedQueue α) : BoundedQueue α := { queue with isOpen := false }

/-- There is room in the budget for an item. -/
def fits (queue : BoundedQueue α) (item : α) : Bool := queue.load + queue.weigh item ≤ queue.budget

/-- The queue with an item behind all others. -/
def append (queue : BoundedQueue α) (item : α) : BoundedQueue α :=
  { queue with items := queue.items ++ [item], load := queue.load + queue.weigh item }

/-- Adds an item if the queue is open and has room, and tells whether it did. -/
def tryPush (queue : BoundedQueue α) (item : α) : Bool × BoundedQueue α :=
  if queue.isOpen && queue.fits item then (true, queue.append item) else (false, queue)

/-- Adds an item, waiting for room while the queue is open. Nobody waits for an item that exceeds the
whole budget. -/
def push (queue : BoundedQueue α) (item : α) : Turn Bool × BoundedQueue α :=
  if queue.budget < queue.weigh item then (.finished false, queue)
  else if !queue.isOpen then (.finished false, queue)
  else if queue.fits item then (.finished true, queue.append item)
  else (.waits, queue)

/-- Takes the oldest item, if there is one. -/
def tryPop (queue : BoundedQueue α) : Option α × BoundedQueue α :=
  match queue.items with
  | [] => (none, queue)
  | item :: items => (some item, { queue with items, load := queue.load - queue.weigh item })

/-- Takes the oldest item, waiting for one while the queue is open; nothing is left to take once it is
closed and empty. -/
def pop (queue : BoundedQueue α) : Turn (Option α) × BoundedQueue α :=
  if queue.items.isEmpty && queue.isOpen then (.waits, queue)
  else (.finished queue.tryPop.1, queue.tryPop.2)

/-- The queue without its items, as open as before. -/
def cleared (queue : BoundedQueue α) : BoundedQueue α := { queue with items := [], load := 0 }

/-- Taking an item leaves one item less. -/
theorem length_of_tryPop {queue : BoundedQueue α} {item : α} (taken : queue.tryPop.1 = some item) :
    queue.tryPop.2.items.length < queue.items.length := by
  unfold tryPop at *
  cases items : queue.items <;> simp_all

end BoundedQueue

end DspInspector

import PlaybackRelay.Queue

/-!
One producer and one consumer of a queue, step by step. The producer changes the queue and then
notifies the consumer; the consumer looks for an item, then whether the queue is closed, and parks
until it is notified. A notification is kept until the consumer parks, but only one at a time. A
consumer that is parked may also give up and look again, which uses up no notification.
-/
namespace PlaybackRelay.Queue

/-- What the consumer does next. Once it has seen the queue closed it looks for an item again. -/
inductive Consumer where
  | popping
  | checking
  | poppingLast
  | parked
  | ended
deriving DecidableEq, Repr

/-- The queue between the two, with all items that were pushed, evicted and received. `notifying`
says that the producer has changed the queue and not yet notified the consumer. -/
structure Handoff (α : Type) where
  queue : Queue α
  permit : Bool
  notifying : Bool
  consumer : Consumer
  pushed : List α
  evicted : List α
  received : List α

inductive Handoff.Move (α : Type) where
  | push (a : α)
  | close
  | notify
  | consume
  | abandon
deriving DecidableEq

namespace Handoff

variable {α : Type}

def start (capacity : Nat) : Handoff α := ⟨.ofCapacity capacity, false, false, .popping, [], [], []⟩

def push (h : Handoff α) (a : α) : Handoff α :=
  let (evicted, queue) := h.queue.push a
  { h with
    queue, notifying := true
    pushed := h.pushed ++ [a]
    evicted := h.evicted ++ evicted.toList }

/-- Receives an item if there is one, and else goes on in another way. -/
def popOr (h : Handoff α) (next : Consumer) : Handoff α :=
  match h.queue.pop with
  | (some a, queue) => { h with queue, consumer := .popping, received := h.received ++ [a] }
  | (none, _) => { h with consumer := next }

/-- The next step of the consumer; there is none at the end, and none while it waits. -/
def consume? (h : Handoff α) : Option (Handoff α) :=
  match h.consumer with
  | .popping => some (h.popOr .checking)
  | .checking => some { h with consumer := if h.queue.closed then .poppingLast else .parked }
  | .poppingLast => some (h.popOr .ended)
  | .parked => if h.permit then some { h with permit := false, consumer := .popping } else none
  | .ended => none

/-- The step of a move, if it can be made now. -/
def step? (h : Handoff α) : Move α → Option (Handoff α)
  | .push a => if h.notifying then none else some (h.push a)
  | .close =>
    if h.notifying then none else some { h with queue := h.queue.close, notifying := true }
  | .notify => if h.notifying then some { h with permit := true, notifying := false } else none
  | .consume => h.consume?
  | .abandon => if h.consumer = .parked then some { h with consumer := .popping } else none

end Handoff
end PlaybackRelay.Queue

import PlaybackRelay.Stats.Basic

/-!
The bounded queue between the stream and the batches. A full queue makes room by dropping its oldest
item.
-/
namespace PlaybackRelay

structure Queue (α : Type) where
  capacity : Nat
  items : List α
  closed : Bool

namespace Queue

variable {α : Type}

/-- A queue holds at least one item. -/
def ofCapacity (capacity : Nat) : Queue α := ⟨max 1 capacity, [], false⟩

def size (q : Queue α) : Nat := q.items.length

/-- The item that had to go, if any, and the queue with the new one at its end. -/
def push (q : Queue α) (a : α) : Option α × Queue α :=
  match q.items with
  | oldest :: rest =>
    if q.capacity ≤ q.items.length then (some oldest, { q with items := rest ++ [a] })
    else (none, { q with items := q.items ++ [a] })
  | [] => (none, { q with items := [a] })

/-- Pushes an item and counts the one that had to go. -/
def pushCounted (q : Queue α) (s : Stats) (a : α) : Option α × Queue α × Stats :=
  let (evicted, q) := q.push a
  (evicted, q, if evicted.isSome then s.count .evicted else s)

def pop (q : Queue α) : Option α × Queue α :=
  match q.items with
  | [] => (none, q)
  | a :: rest => (some a, { q with items := rest })

/-- What a receiver gets that is asked once. -/
inductive Received (α : Type) where
  | item (a : α)
  | ended
  | waiting

/-- A closed queue still delivers what it holds. -/
def receive (q : Queue α) : Received α × Queue α :=
  match q.pop with
  | (some a, q) => (.item a, q)
  | (none, q) => (if q.closed then .ended else .waiting, q)

def close (q : Queue α) : Queue α := { q with closed := true }

end Queue
end PlaybackRelay

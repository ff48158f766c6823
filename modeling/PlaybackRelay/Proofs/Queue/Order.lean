import PlaybackRelay.Proofs.Queue
import PlaybackRelay.Proofs.Stats.Counts

/-!
Sequences of calls on a queue. Whatever is called in whatever order, the items leave in the order in
which they were pushed, by delivery or by eviction. Main statement: `departed_append_items_run`.
-/
namespace PlaybackRelay.Queue

variable {α : Type}

/-- A call of `receive` asks once; it may be given up if it would have to wait. -/
inductive Call (α : Type) where
  | push (a : α)
  | pop
  | receive
  | close
deriving DecidableEq

inductive Answer (α : Type) where
  | pushed (evicted : Option α)
  | popped (item : Option α)
  | received (received : Received α)
  | closed

namespace Call

def pushed : Call α → List α
  | .push a => [a]
  | _ => []

end Call

def Received.item? : Received α → Option α
  | .item a => some a
  | _ => none

namespace Answer

def evicted : Answer α → List α
  | .pushed evicted => evicted.toList
  | _ => []

/-- The items that left the queue, whether they were evicted or delivered. -/
def departed : Answer α → List α
  | .pushed evicted => evicted.toList
  | .popped item => item.toList
  | .received r => r.item?.toList
  | .closed => []

end Answer

def call (q : Queue α) (s : Stats) : Call α → Answer α × Queue α × Stats
  | .push a =>
    let (evicted, q, s) := q.pushCounted s a
    (.pushed evicted, q, s)
  | .pop => (.popped q.pop.1, q.pop.2, s)
  | .receive => (.received q.receive.1, q.receive.2, s)
  | .close => (.closed, q.close, s)

/-- Makes some calls one after the other. -/
def run (q : Queue α) (s : Stats) : List (Call α) → List (Answer α) × Queue α × Stats
  | [] => ([], q, s)
  | x :: calls =>
    let (answer, q, s) := q.call s x
    let (answers, q, s) := q.run s calls
    (answer :: answers, q, s)

theorem run_cons (q : Queue α) (s : Stats) (x : Call α) (calls : List (Call α)) :
    q.run s (x :: calls) =
      ((q.call s x).1 :: ((q.call s x).2.1.run (q.call s x).2.2 calls).1,
        ((q.call s x).2.1.run (q.call s x).2.2 calls).2) := rfl

@[simp] theorem capacity_receive (q : Queue α) : q.receive.2.capacity = q.capacity := by
  cases h : q.items with
  | nil => rw [receive_of_nil h]
  | cons a rest => rw [receive_of_cons h]

@[simp] theorem closed_receive (q : Queue α) : q.receive.2.closed = q.closed := by
  cases h : q.items with
  | nil => rw [receive_of_nil h]
  | cons a rest => rw [receive_of_cons h]

private theorem items_receive (q : Queue α) :
    q.receive.1.item?.toList ++ q.receive.2.items = q.items := by
  cases h : q.items with
  | nil =>
    rw [receive_of_nil h]
    cases q.closed <;> simp [Received.item?, h]
  | cons a rest => simp [receive_of_cons h, Received.item?]

private theorem receive_eq_ended_iff (q : Queue α) :
    q.receive.1 = .ended ↔ q.closed = true ∧ q.items = [] := by
  cases h : q.items with
  | nil => rw [receive_of_nil h]; cases q.closed <;> simp
  | cons a rest => simp [receive_of_cons h]

private theorem receive_eq_waiting_iff (q : Queue α) :
    q.receive.1 = .waiting ↔ q.closed = false ∧ q.items = [] := by
  cases h : q.items with
  | nil => rw [receive_of_nil h]; cases q.closed <;> simp
  | cons a rest => simp [receive_of_cons h]

/-- `pop` delivers what `receive` does. -/
theorem pop_eq_receive (q : Queue α) : q.pop = (q.receive.1.item?, q.receive.2) := by
  cases h : q.items with
  | nil =>
    rw [receive_of_nil h]
    cases q.closed <;> simp [pop, Received.item?, h]
  | cons a rest => simp [pop, receive_of_cons h, Received.item?, h]

/-- A full queue, and no other one, gives up an item. -/
theorem isSome_push_iff {q : Queue α} (hcapacity : 0 < q.capacity)
    (hroom : q.items.length ≤ q.capacity) (a : α) :
    (q.push a).1.isSome ↔ q.items.length = q.capacity := by
  by_cases hfull : q.items.length = q.capacity
  · cases hitems : q.items with
    | nil => rw [hitems, List.length_nil] at hfull; omega
    | cons oldest rest =>
      rw [hitems] at hfull
      simp [push, hitems, ← hfull]
  · have hlt : q.items.length < q.capacity := by omega
    simp [push_fst_eq_none hlt, hfull]

/-- What is left of a queue after its first calls: nothing was lost of what was pushed. -/
structure Lawful (capacity : Nat) (pushed departed : List α) (q : Queue α) : Prop where
  order : departed ++ q.items = pushed
  capacity_eq : q.capacity = max 1 capacity
  room : q.items.length ≤ q.capacity

namespace Lawful

variable {capacity : Nat} {pushed departed : List α} {q : Queue α}

theorem ofCapacity (capacity : Nat) : Lawful capacity [] [] (ofCapacity capacity : Queue α) :=
  ⟨rfl, rfl, Nat.zero_le _⟩

theorem capacity_pos (h : Lawful capacity pushed departed q) : 0 < q.capacity := by
  rw [h.capacity_eq]
  omega

theorem push (h : Lawful capacity pushed departed q) (a : α) :
    Lawful capacity (pushed ++ [a]) (departed ++ (q.push a).1.toList) (q.push a).2 := by
  have hitems := items_push q a
  refine ⟨?_, by rw [capacity_push, h.capacity_eq], ?_⟩
  · rw [List.append_assoc, hitems, ← List.append_assoc, h.order]
  · have hlength := congrArg List.length hitems
    have hfull := isSome_push_iff h.capacity_pos h.room a
    have hroom := h.room
    simp only [List.length_append, List.length_singleton] at hlength
    rw [capacity_push]
    cases hevicted : (q.push a).1 with
    | none =>
      rw [hevicted] at hfull hlength
      simp only [Option.isSome_none, Bool.false_eq_true, false_iff] at hfull
      simp only [Option.toList_none, List.length_nil] at hlength
      omega
    | some oldest =>
      rw [hevicted] at hlength
      simp only [Option.toList_some, List.length_singleton] at hlength
      omega

theorem receive (h : Lawful capacity pushed departed q) :
    Lawful capacity pushed (departed ++ q.receive.1.item?.toList) q.receive.2 := by
  have hitems := items_receive q
  refine ⟨?_, by rw [capacity_receive, h.capacity_eq], ?_⟩
  · rw [List.append_assoc, hitems, h.order]
  · have hlength := congrArg List.length hitems
    have hroom := h.room
    rw [List.length_append] at hlength
    rw [capacity_receive]
    omega

theorem call (h : Lawful capacity pushed departed q) (s : Stats) (x : Call α) :
    Lawful capacity (pushed ++ x.pushed) (departed ++ (q.call s x).1.departed)
      (q.call s x).2.1 := by
  cases x with
  | push a => exact h.push a
  | pop =>
    have hreceive := h.receive
    simpa [Queue.call, pop_eq_receive, Call.pushed, Answer.departed] using hreceive
  | receive => simpa [Queue.call, Call.pushed, Answer.departed] using h.receive
  | close => simpa [Queue.call, Call.pushed, Answer.departed] using ⟨h.order, h.capacity_eq, h.room⟩

theorem run (h : Lawful capacity pushed departed q) (s : Stats) (calls : List (Call α)) :
    Lawful capacity (pushed ++ calls.flatMap Call.pushed)
      (departed ++ (q.run s calls).1.flatMap Answer.departed) (q.run s calls).2.1 := by
  induction calls generalizing pushed departed q s with
  | nil => simpa [Queue.run] using h
  | cons x calls ih =>
    have hnext := ih (h.call s x) (q.call s x).2.2
    rw [List.append_assoc, List.append_assoc] at hnext
    rw [run_cons, List.flatMap_cons, List.flatMap_cons]
    exact hnext

end Lawful

private theorem evicted_call (q : Queue α) (s : Stats) (x : Call α) :
    (q.call s x).2.2.counts.get .evicted =
      s.counts.get .evicted + UInt64.ofNat (q.call s x).1.evicted.length := by
  cases x with
  | push a =>
    cases h : (q.push a).1 with
    | none => simp [call, pushCounted, h, Answer.evicted]
    | some oldest => simp [call, pushCounted, h, Answer.evicted]
  | _ => simp [call, Answer.evicted]

theorem evicted_run (q : Queue α) (s : Stats) (calls : List (Call α)) :
    (q.run s calls).2.2.counts.get .evicted =
      s.counts.get .evicted +
        UInt64.ofNat ((q.run s calls).1.flatMap Answer.evicted).length := by
  induction calls generalizing q s with
  | nil => simp [run]
  | cons x calls ih =>
    rw [run_cons, List.flatMap_cons, List.length_append, UInt64.ofNat_add, ← UInt64.add_assoc,
      ← evicted_call]
    exact ih _ _

private theorem closed_call (q : Queue α) (s : Stats) (x : Call α) :
    (q.call s x).2.1.closed = true ↔ q.closed = true ∨ x = .close := by
  cases x with
  | push a => simp [call, pushCounted]
  | pop => simp [call, pop_eq_receive]
  | receive => simp [call]
  | close => simp [call, close]

theorem closed_run (q : Queue α) (s : Stats) (calls : List (Call α)) :
    (q.run s calls).2.1.closed = true ↔ q.closed = true ∨ Call.close ∈ calls := by
  induction calls generalizing q s with
  | nil => simp [run]
  | cons x calls ih =>
    rw [run_cons, ih, closed_call, List.mem_cons, or_assoc, eq_comm (a := x)]

/-- Items leave a queue in the order in which they were pushed, and what has left it together with
what it still holds is all that was pushed. It never holds more than its capacity, and gives up an
item, a single one, just when it is full; these are counted. A receiver learns of the end when the
queue is closed and empty, and waits when it is open and empty. Closing leaves the items alone. -/
theorem departed_append_items_run (capacity : Nat) (s : Stats) (calls : List (Call α)) :
    let answers := ((ofCapacity capacity).run s calls).1
    let q := ((ofCapacity capacity).run s calls).2.1
    let counts := ((ofCapacity capacity).run s calls).2.2.counts
    answers.flatMap Answer.departed ++ q.items = calls.flatMap Call.pushed ∧
      q.size ≤ max 1 capacity ∧
      (∀ a, (q.push a).1.isSome ↔ q.size = max 1 capacity) ∧
      (∀ a, (q.push a).1.toList ++ (q.push a).2.items = q.items ++ [a]) ∧
      counts.get .evicted =
        s.counts.get .evicted + UInt64.ofNat (answers.flatMap Answer.evicted).length ∧
      (q.closed = true ↔ Call.close ∈ calls) ∧
      (q.receive.1 = .ended ↔ q.closed = true ∧ q.size = 0) ∧
      (q.receive.1 = .waiting ↔ q.closed = false ∧ q.size = 0) ∧
      q.close.items = q.items := by
  intro answers q counts
  have h : Lawful capacity (calls.flatMap Call.pushed) (answers.flatMap Answer.departed) q := by
    simpa using (Lawful.ofCapacity capacity).run s calls
  have hopen : (ofCapacity capacity : Queue α).closed = false := rfl
  have hclosed : q.closed = true ↔ Call.close ∈ calls := by
    rw [closed_run, hopen]
    simp
  refine ⟨h.order, h.capacity_eq ▸ h.room, fun a => ?_, items_push q, evicted_run _ s calls,
    hclosed, ?_, ?_, rfl⟩
  · rw [isSome_push_iff h.capacity_pos h.room, h.capacity_eq, size]
  · rw [receive_eq_ended_iff, size, List.length_eq_zero_iff]
  · rw [receive_eq_waiting_iff, size, List.length_eq_zero_iff]

end PlaybackRelay.Queue

import PlaybackRelay.Queue

/-!
The queue keeps the order of its items: what it gives up or delivers comes from its front, and what
is pushed goes to its end.
-/
namespace PlaybackRelay.Queue

variable {α : Type}

@[simp] theorem closed_push (q : Queue α) (a : α) : (q.push a).2.closed = q.closed := by
  unfold push
  split
  · split <;> rfl
  · rfl

@[simp] theorem capacity_push (q : Queue α) (a : α) : (q.push a).2.capacity = q.capacity := by
  unfold push
  split
  · split <;> rfl
  · rfl

/-- The item that had to go stood before all others. -/
theorem items_push (q : Queue α) (a : α) :
    (q.push a).1.toList ++ (q.push a).2.items = q.items ++ [a] := by
  unfold push
  split
  case h_1 oldest rest hitems =>
    split
    · simp [hitems]
    · simp
  case h_2 hitems => simp [hitems]

theorem push_fst_eq_none {q : Queue α} (h : q.items.length < q.capacity) (a : α) :
    (q.push a).1 = none := by
  unfold push
  split
  · rw [if_neg (Nat.not_le.2 h)]
  · rfl

theorem receive_of_cons {q : Queue α} {a : α} {rest : List α} (h : q.items = a :: rest) :
    q.receive = (.item a, { q with items := rest }) := by
  simp [receive, pop, h]

theorem receive_of_nil {q : Queue α} (h : q.items = []) :
    q.receive = (if q.closed then .ended else .waiting, q) := by
  simp [receive, pop, h]

theorem items_of_receive_item {q q' : Queue α} {a : α} (h : q.receive = (.item a, q')) :
    q.items = a :: q'.items ∧ q'.closed = q.closed ∧ q'.capacity = q.capacity := by
  cases hitems : q.items with
  | nil =>
    rw [receive_of_nil hitems] at h
    split at h <;> cases h
  | cons b rest =>
    rw [receive_of_cons hitems] at h
    cases h
    exact ⟨rfl, rfl, rfl⟩

/-- The end is reported of a queue that is closed and holds nothing. -/
theorem items_of_receive_ended {q q' : Queue α} (h : q.receive = (.ended, q')) :
    q.items = [] ∧ q.closed = true := by
  cases hitems : q.items with
  | nil =>
    rw [receive_of_nil hitems] at h
    split at h
    · exact ⟨rfl, by assumption⟩
    · cases h
  | cons b rest =>
    rw [receive_of_cons hitems] at h
    cases h

/-- A closed queue never makes its receiver wait. -/
theorem receive_ne_waiting {q q' : Queue α} (hq : q.closed = true) :
    q.receive ≠ (.waiting, q') := by
  intro h
  cases hitems : q.items with
  | nil =>
    rw [receive_of_nil hitems, if_pos hq] at h
    cases h
  | cons b rest =>
    rw [receive_of_cons hitems] at h
    cases h

end PlaybackRelay.Queue

import PlaybackRelay.Pipeline.World

/-!
What is left to do in a pipeline. Whatever order its tasks take their steps in, every step does
something that was left to do, so that no run goes on for ever. Main statement:
`World.left_step_lt`.
-/
namespace PlaybackRelay.Pipeline

namespace Batcher

/-- What is left for the batcher itself to do. -/
def left : Batcher → Nat
  | .receiving => 5
  | .holding _ => 12
  | .offering _ last => if last then 3 else 7
  | .flushing => 4
  | .draining => 1
  | .ended | .crashed => 0

end Batcher

namespace World

variable {σ : Type}

/-- What is left for the batcher and the writes to do. -/
def localLeft (w : World σ) : Nat := 8 * w.queue.items.length + w.batcher.left + w.writes.length

/-- What is left to do: the stream, the end of its queue, then all else. -/
def left (p : Plan) (w : World σ) : (Nat × Nat × Nat) × Nat × Nat :=
  (w.stream.left p.backoff, if w.queue.closed then 0 else 1, w.localLeft)

/-- Less is left to do. -/
abbrev Less : (Nat × Nat × Nat) × Nat × Nat → (Nat × Nat × Nat) × Nat × Nat → Prop :=
  Prod.Lex Stream.Task.Less (Prod.Lex (· < ·) (· < ·))

theorem left_local_lt {p : Plan} {w w' : World σ} (hs : w'.stream = w.stream)
    (hc : w'.queue.closed = w.queue.closed) (hl : w'.localLeft < w.localLeft) :
    Less (w'.left p) (w.left p) := by
  unfold left
  rw [hs, hc]
  exact Prod.Lex.right _ (Prod.Lex.right _ hl)

private theorem left_stepStream_lt {p : Plan} {w w' : World σ} (h : w.stepStream? p = some w') :
    Less (w'.left p) (w.left p) := by
  unfold stepStream? at h
  split at h
  · split at h
    · contradiction
    · rename_i hopen
      obtain rfl := Option.some.inj h
      refine Prod.Lex.right _ (Prod.Lex.left _ _ ?_)
      rw [if_neg hopen]
      exact Nat.zero_lt_one
  · obtain ⟨⟨stream, intake⟩, hstep, rfl⟩ := Option.map_eq_some_iff.1 h
    exact Prod.Lex.left _ _ (Stream.Task.left_step_lt hstep)

private theorem left_stepLeave_lt {p : Plan} {w w' : World σ} (h : w.stepLeave? = some w') :
    Less (w'.left p) (w.left p) := by
  unfold stepLeave? at h
  split at h
  · rename_i hwait
    obtain rfl := Option.some.inj h
    refine Prod.Lex.left _ _ ?_
    unfold Stream.Phase.mayWait at hwait
    split at hwait <;> rename_i hp
    case h_1 | h_2 | h_3 =>
      simp only [Stream.Task.leave, Stream.Task.left, hp]
      exact Prod.Lex.right _ (Prod.Lex.left _ _ (by decide))
    all_goals contradiction
  · contradiction

theorem localLeft_endBatcher (w : World σ) {batcher : Batcher} (h : batcher.left = 0) :
    (w.endBatcher batcher).localLeft = 8 * w.queue.items.length := by
  simp [localLeft, endBatcher, h, queue]

theorem length_pop {α : Type} {q q' : Queue α} {a : α} (h : q.pop = (some a, q')) :
    q.items.length = q'.items.length + 1 ∧ q'.closed = q.closed := by
  unfold Queue.pop at h
  split at h
  · simp at h
  · rename_i hq
    obtain ⟨-, rfl⟩ := Prod.mk.inj h
    simp [hq]

theorem length_receive {α : Type} {q q' : Queue α} {a : α} (h : q.receive = (.item a, q')) :
    q.items.length = q'.items.length + 1 ∧ q'.closed = q.closed := by
  unfold Queue.receive at h
  split at h
  · rename_i hp
    obtain ⟨h, rfl⟩ := Prod.mk.inj h
    exact length_pop hp
  · split at h <;> simp at h

private theorem left_stepSave_lt {p : Plan} {w w' : World σ} {number : Nat} {ending : Ending}
    (h : w.stepSave? number ending = some w') : Less (w'.left p) (w.left p) := by
  obtain ⟨write, hfound, rfl⟩ := Option.map_eq_some_iff.1 h
  refine left_local_lt rfl rfl ?_
  have hmem := List.mem_of_find?_eq_some hfound
  have hnumber : write.number = number := by simpa using List.find?_some hfound
  have hlt : (w.writes.filter (·.number ≠ number)).length < w.writes.length := by
    apply List.length_filter_lt_length_iff_exists.2
    exact ⟨write, hmem, by simp [hnumber]⟩
  simpa [localLeft, withStats, queue] using hlt

private theorem left_stepGiveUp_lt {p : Plan} {w w' : World σ} (h : w.stepGiveUp? = some w') :
    Less (w'.left p) (w.left p) := by
  unfold stepGiveUp? at h
  split at h
  · rename_i hdraining
    split at h
    · contradiction
    · obtain rfl := Option.some.inj h
      refine left_local_lt rfl rfl ?_
      rw [localLeft_endBatcher w rfl, localLeft, hdraining]
      simp only [Batcher.left]
      omega
  · contradiction

variable [SessionCache σ]

private theorem left_push_lt {p : Plan} {w : World σ} {e : Event} (h : w.batcher = .holding e) :
    Less ((w.push p e).left p) (w.left p) := by
  have hw : w.localLeft = 8 * w.queue.items.length + 12 + w.writes.length := by
    simp [localLeft, h, Batcher.left]
  unfold push
  split
  · refine left_local_lt rfl rfl ?_
    rw [localLeft_endBatcher _ rfl, hw]
    simp only [withStats, queue]
    omega
  · refine left_local_lt rfl rfl ?_
    rw [hw]
    simp only [localLeft, withStats, queue]
    split <;> simp [Batcher.left]

private theorem left_flush_lt {p : Plan} {w : World σ} (h : w.batcher = .flushing) :
    Less ((w.flush p).left p) (w.left p) := by
  have hw : w.localLeft = 8 * w.queue.items.length + 4 + w.writes.length := by
    simp [localLeft, h, Batcher.left]
  unfold flush
  split
  · refine left_local_lt rfl rfl ?_
    rw [localLeft_endBatcher _ rfl, hw]
    omega
  · refine left_local_lt rfl rfl ?_
    rw [hw]
    simp only [localLeft, withStats, queue]
    split <;> simp [Batcher.left]

private theorem left_stepBatcher_lt {p : Plan} {w w' : World σ} (h : w.stepBatcher? p = some w') :
    Less (w'.left p) (w.left p) := by
  unfold stepBatcher? at h
  split at h
  case h_1 hb =>
    split at h
    · rename_i hreceive
      obtain ⟨hlength, hclosed⟩ := length_receive hreceive
      obtain rfl := Option.some.inj h
      refine left_local_lt rfl hclosed ?_
      simp only [localLeft, withQueue, queue, hb, Batcher.left] at hlength ⊢
      omega
    · obtain rfl := Option.some.inj h
      refine left_local_lt rfl rfl ?_
      simp only [localLeft, queue, hb, Batcher.left]
      omega
    · contradiction
  case h_2 hb =>
    obtain rfl := Option.some.inj h
    exact left_push_lt hb
  case h_3 batch last hb =>
    split at h
    · obtain rfl := Option.some.inj h
      refine left_local_lt rfl rfl ?_
      cases last <;> simp [localLeft, beginWrite, queue, hb, Batcher.left] <;> omega
    · contradiction
  case h_4 hb =>
    obtain rfl := Option.some.inj h
    exact left_flush_lt hb
  case h_5 hb =>
    split at h
    · obtain rfl := Option.some.inj h
      refine left_local_lt rfl rfl ?_
      simp only [localLeft, queue, hb, Batcher.left]
      omega
    · contradiction
  all_goals contradiction

/-- Every step does something that was left to do. -/
theorem left_step_lt {p : Plan} {w w' : World σ} {a : Action} (h : w.step? p a = some w') :
    Less (w'.left p) (w.left p) := by
  cases a with
  | stream => exact left_stepStream_lt h
  | leave => exact left_stepLeave_lt h
  | batcher => exact left_stepBatcher_lt h
  | save number ending => exact left_stepSave_lt h
  | giveUp => exact left_stepGiveUp_lt h

end World
end PlaybackRelay.Pipeline

import PlaybackRelay.Proofs.Pipeline.Ledger

/-!
What a pipeline has handed over. Unless the batcher crashed, the correlator was given the batched
events one by one, and was flushed once the closed queue was empty; each batch that came of it is
handed over as one write. Main statements: `closing_step`, `tracked_step` and `numbered_step`.
-/
namespace PlaybackRelay.Pipeline

open Correlator (Call)

namespace Batcher

/-- Whether the batcher has seen the end of the queue. -/
def sawEnd : Batcher → Bool
  | .offering _ last => last
  | .flushing | .draining | .ended => true
  | .receiving | .holding _ | .crashed => false

private theorem sawEnd_afterCall {b : Batcher} {x : Call} (h : b.call? = some x)
    (batch : Option (List Event)) : (afterCall x batch).sawEnd = b.sawEnd := by
  cases b with
  | holding e | flushing =>
    obtain rfl := Option.some.inj h
    cases batch <;> rfl
  | _ => contradiction

theorem sawEnd_of_flushed {b : Batcher} (h : b.flushed) : b.sawEnd := by
  cases b with
  | offering batch last => exact h
  | draining | ended => rfl
  | _ => contradiction

private theorem held_of_flushed {b : Batcher} (h : b.flushed) : b.held = [] := by
  cases b with
  | holding e => contradiction
  | _ => rfl

theorem offered_of_call? {b : Batcher} {x : Call} (h : b.call? = some x) : b.offered = [] := by
  cases b with
  | holding e | flushing => rfl
  | _ => contradiction

end Batcher

namespace World

variable {σ : Type}

/-- The stream has ended before its queue is closed, and the batcher sees the end only of a closed
queue that is empty. -/
structure Closing (w : World σ) : Prop where
  ended : w.queue.closed → w.stream.outcome?.isSome
  drained : w.batcher.sawEnd → w.queue.closed ∧ w.queue.items = []

variable [SessionCache σ] {p : Plan} {w w' : World σ} {l : Ledger} {a : Action}

theorem closing_step (hstep : Step p w a w') (h : w.Closing) : w'.Closing := by
  cases hstep with
  | stream hstep =>
    have hopen : ¬ w.queue.closed := by
      intro hclosed
      have hended := h.ended hclosed
      rw [Stream.Task.outcome?_of_step hstep] at hended
      contradiction
    refine ⟨fun hclosed => absurd ?_ hopen, fun hend => absurd (h.drained hend).1 hopen⟩
    exact (Stream.Task.closed_of_step hstep).symm.trans hclosed
  | close houtcome =>
    refine ⟨fun _ => ?_, fun hend => ⟨rfl, (h.drained hend).2⟩⟩
    exact Option.isSome_of_eq_some houtcome
  | leave _ => exact ⟨fun _ => rfl, h.drained⟩
  | receive _ hreceive =>
    obtain ⟨-, hclosed, -⟩ := Queue.items_of_receive_item hreceive
    refine ⟨fun hqueue => h.ended ?_, fun hend => absurd hend Bool.false_ne_true⟩
    rw [← hclosed]
    exact hqueue
  | finish _ hreceive =>
    obtain ⟨hitems, hclosed⟩ := Queue.items_of_receive_ended hreceive
    exact ⟨h.ended, fun _ => ⟨hclosed, hitems⟩⟩
  | call hbatcher _ =>
    refine ⟨h.ended, fun hend => h.drained ?_⟩
    rw [← Batcher.sawEnd_afterCall hbatcher]
    exact hend
  | crash _ _ => exact ⟨h.ended, fun hend => absurd hend Bool.false_ne_true⟩
  | @handOver batch last hbatcher _ =>
    refine ⟨h.ended, fun hend => h.drained ?_⟩
    rw [hbatcher]
    cases last with
    | false => exact hend
    | true => rfl
  | drain hbatcher _ | giveUp hbatcher _ =>
    refine ⟨h.ended, fun _ => h.drained ?_⟩
    rw [hbatcher]
    rfl
  | save _ => exact ⟨h.ended, h.drained⟩

omit [SessionCache σ] in
/-- Once the last batch was flushed, nothing is left on the way. -/
theorem Closing.inFlight_eq (h : w.Closing) (hflushed : w.batcher.flushed) : w.inFlight = [] := by
  obtain ⟨hclosed, hitems⟩ := h.drained (Batcher.sawEnd_of_flushed hflushed)
  have hheld := Stream.Task.held_of_outcome (h.ended hclosed)
  rw [inFlight, hitems, hheld, Batcher.held_of_flushed hflushed]
  rfl

/-- Only a broken cache makes the batcher crash. -/
theorem crashed_step (hstep : Step p w a w') (h : w.batcher = .crashed → p.brokenCache)
    (hcrashed : w'.batcher = .crashed) : p.brokenCache := by
  cases hstep with
  | stream _ | close _ | leave _ | save _ => exact h hcrashed
  | crash _ hcache => exact hcache
  | call _ _ => exact absurd hcrashed (Batcher.afterCall_ne_crashed _ _)
  | @handOver _ last _ _ => cases last <;> contradiction
  | receive _ _ | finish _ _ | drain _ _ | giveUp _ _ => contradiction

/-- The calls that were made on the correlator. -/
def calls (batcher : Batcher) (l : Ledger) : List Call :=
  l.batched.map .push ++ if batcher.flushed then [.flush] else []

omit [SessionCache σ] in
private theorem calls_afterCall {b : Batcher} {x : Call} (h : b.call? = some x)
    (batch : Option (List Event)) (l : Ledger) (unresolved : List Event) :
    calls (.afterCall x batch) { l with batched := l.batched ++ x.pushed, unresolved } =
      calls b l ++ [x] := by
  cases b with
  | holding e | flushing =>
    obtain rfl := Option.some.inj h
    cases batch <;> simp [calls, Batcher.afterCall, Batcher.flushed, Call.pushed]
  | _ => contradiction

/-- The correlator, what was handed over and what was dropped, as calls one after the other yield
them. -/
structure Tracked (c : Correlator σ) (w : World σ) (l : Ledger) : Prop where
  correlator : w.correlator = (c.run .empty (calls w.batcher l)).2.1
  handed : w.handed ++ w.batcher.offered = (c.run .empty (calls w.batcher l)).1.reduceOption
  unresolved : l.unresolved = c.droppedBy (calls w.batcher l)

theorem Tracked.of_eq {c : Correlator σ} {l' : Ledger} (h : Tracked c w l)
    (hcorrelator : w'.correlator = w.correlator)
    (hhanded : w'.handed ++ w'.batcher.offered = w.handed ++ w.batcher.offered)
    (hflushed : w'.batcher.flushed = w.batcher.flushed) (hbatched : l'.batched = l.batched)
    (hunresolved : l'.unresolved = l.unresolved) : Tracked c w' l' := by
  have hcalls : calls w'.batcher l' = calls w.batcher l := by rw [calls, calls, hflushed, hbatched]
  constructor
  · rw [hcalls, hcorrelator, h.correlator]
  · rw [hcalls, hhanded, h.handed]
  · rw [hcalls, hunresolved, h.unresolved]

theorem Tracked.call {c : Correlator σ} {x : Call} (h : Tracked c w l)
    (hbatcher : w.batcher.call? = some x)
    (hcache : p.brokenCache → w.correlator.dropped x = []) :
    Tracked c (w.afterCall x (w.correlator.call w.stats x)) (w.enterBatcher p l) := by
  obtain ⟨hbatch, hcorrelator⟩ :=
    Correlator.run_concat c .empty w.stats (calls w.batcher l) x
  rw [← h.correlator] at hbatch hcorrelator
  have hcalls := calls_afterCall hbatcher (w.correlator.call w.stats x).1 l
    (l.unresolved ++ w.correlator.dropped x)
  have hoffered := h.handed
  rw [Batcher.offered_of_call? hbatcher, List.append_nil] at hoffered
  rw [enterBatcher_of_call hbatcher hcache]
  constructor
  · change _ = (c.run .empty (calls (.afterCall x _) _)).2.1
    rw [hcalls, hcorrelator]
    rfl
  · change w.handed ++ (Batcher.afterCall x _).offered =
      (c.run .empty (calls (.afterCall x _) _)).1.reduceOption
    rw [hcalls, hbatch, List.reduceOption_append, List.reduceOption_singleton, ← hoffered,
      Batcher.offered_afterCall]
  · change _ = c.droppedBy (calls (.afterCall x _) _)
    rw [hcalls, Correlator.droppedBy_concat, ← h.correlator, ← h.unresolved]

theorem tracked_step {c : Correlator σ} (hstep : Step p w a w')
    (h : w.batcher ≠ .crashed → Tracked c w l) (hsound : w'.batcher ≠ .crashed) :
    Tracked c w' (w.enter p l a) := by
  cases hstep with
  | stream _ | close _ =>
    exact (h hsound).of_eq rfl rfl rfl batched_enterStream unresolved_enterStream
  | leave _ | save _ => exact (h hsound).of_eq rfl rfl rfl rfl rfl
  | receive hbatcher _ | finish hbatcher _ | drain hbatcher _ =>
    have htracked := h (by simp [hbatcher])
    rw [enter, enterBatcher_of_none (by rw [hbatcher]; rfl)]
    refine htracked.of_eq rfl ?_ ?_ rfl rfl <;> rw [hbatcher] <;> rfl
  | call hbatcher hcache =>
    refine (h fun hcrashed => ?_).call hbatcher hcache
    rw [hcrashed] at hbatcher
    contradiction
  | crash _ _ => exact absurd rfl hsound
  | @handOver batch last hbatcher _ =>
    have htracked := h (by simp [hbatcher])
    rw [enter, enterBatcher_of_none (by rw [hbatcher]; rfl)]
    refine htracked.of_eq rfl ?_ ?_ rfl rfl
    · rw [hbatcher]
      cases last <;> exact List.append_nil _
    · rw [hbatcher]
      cases last <;> rfl
  | giveUp hbatcher _ =>
    have htracked := h (by simp [hbatcher])
    refine htracked.of_eq rfl ?_ ?_ rfl rfl <;> rw [hbatcher] <;> rfl

/-- Each batch that was handed over is one write with a number of its own. -/
structure Numbered (w : World σ) : Prop where
  perm : (w.writes ++ w.done.map Prod.fst).Perm (w.handed.mapIdx Write.mk)
  ended : w.batcher = .ended → w.writes = []

omit [SessionCache σ] in
theorem Numbered.nodup (h : w.Numbered) : (w.writes.map Write.number).Nodup := by
  have hnumbers : (w.handed.mapIdx Write.mk).map Write.number = List.range w.handed.length :=
    List.ext_getElem (by simp) (by simp)
  have hall := (h.perm.map Write.number).nodup_iff.2 (hnumbers ▸ List.nodup_range)
  rw [List.map_append] at hall
  exact (List.nodup_append.1 hall).1

/-- The write that ends is the only one with its number. -/
theorem perm_cons_filter {writes : List Write} {write : Write} {number : Nat}
    (hnodup : (writes.map Write.number).Nodup)
    (hfind : writes.find? (·.number = number) = some write) :
    writes.Perm (write :: writes.filter (·.number ≠ number)) := by
  induction writes with
  | nil => contradiction
  | cons first writes ih =>
    obtain ⟨hfirst, hnodup⟩ := List.nodup_cons.1 hnodup
    by_cases hnumber : first.number = number
    · have hothers : writes.filter (·.number ≠ number) = writes := by
        refine List.filter_eq_self.2 fun x hx => ?_
        have hne : x.number ≠ number := by
          rintro rfl
          exact hfirst (hnumber ▸ List.mem_map_of_mem hx)
        exact decide_eq_true hne
      rw [List.find?_cons_of_pos (by simpa using hnumber)] at hfind
      obtain rfl := Option.some.inj hfind
      rw [List.filter_cons_of_neg (by simpa using hnumber), hothers]
    · rw [List.find?_cons_of_neg (by simpa using hnumber)] at hfind
      rw [List.filter_cons_of_pos (by simpa using hnumber)]
      exact ((ih hnodup hfind).cons first).trans (.swap write first _)

omit [SessionCache σ] in
theorem Numbered.beginWrite (h : w.Numbered) (batch : List Event) :
    ((w.beginWrite batch).writes ++ w.done.map Prod.fst).Perm
      ((w.handed ++ [batch]).mapIdx Write.mk) := by
  rw [List.mapIdx_concat]
  refine List.Perm.trans ?_ (h.perm.append_right _)
  rw [World.beginWrite, List.append_assoc, List.append_assoc]
  exact List.perm_append_comm.append_left _

omit [SessionCache σ] in
theorem Numbered.endBatcher (h : w.Numbered) (batcher : Batcher) :
    (w.endBatcher batcher).Numbered := by
  refine ⟨?_, fun _ => rfl⟩
  have hperm := List.perm_append_comm.trans h.perm
  simpa [World.endBatcher, Function.comp_def] using hperm

omit [SessionCache σ] in
theorem Numbered.save {write : Write} {number : Nat} (h : w.Numbered)
    (hwrite : w.writes.find? (·.number = number) = some write) (ending : Ending) :
    (w.writes.filter (·.number ≠ number) ++ (w.done ++ [(write, some ending)]).map Prod.fst).Perm
      (w.handed.mapIdx Write.mk) := by
  have hmove := (perm_cons_filter h.nodup hwrite).append_right (w.done.map Prod.fst)
  refine List.Perm.trans ?_ (hmove.symm.trans h.perm)
  rw [List.map_append, ← List.append_assoc]
  exact List.perm_append_singleton _ _

theorem numbered_step (hstep : Step p w a w') (h : w.Numbered) : w'.Numbered := by
  cases hstep with
  | stream _ | close _ | leave _ => exact ⟨h.perm, h.ended⟩
  | receive _ _ | finish _ _ => exact ⟨h.perm, nofun⟩
  | call _ _ => exact ⟨h.perm, fun hended => absurd hended (Batcher.afterCall_ne_ended _ _)⟩
  | @crash x _ _ =>
    have hcounted : (w.withStats (x.record w.stats)).Numbered := ⟨h.perm, h.ended⟩
    exact hcounted.endBatcher _
  | @handOver batch last _ _ =>
    refine ⟨h.beginWrite batch, ?_⟩
    cases last <;> nofun
  | drain _ hwrites => exact ⟨h.perm, fun _ => hwrites⟩
  | save hwrite =>
    refine ⟨h.save hwrite _, fun hended => ?_⟩
    change w.writes.filter _ = []
    rw [h.ended hended, List.filter_nil]
  | giveUp _ _ => exact h.endBatcher _

end World
end PlaybackRelay.Pipeline

import PlaybackRelay.Proofs.Session.Calls
import PlaybackRelay.Proofs.Stats.Counts

/-!
A correlator neither loses nor duplicates events: what is pushed is dropped, or becomes one document
of one batch, or is still pending, and it is counted accordingly. Main statement: `perm_run`.
-/
namespace PlaybackRelay

/-- An event as it was before a session was attached to it. -/
def Event.asReceived (e : Event) : Event :=
  if e.isStart then { e with data := e.session.getD [], session := none }
  else { e with session := none }

namespace Correlator

private theorem asReceived_ofStart {e : Event} (he : e.isStart) (hs : e.session = none) :
    (ofStart e).asReceived = e := by
  have hstart : (ofStart e).isStart := he
  rw [Event.asReceived, if_pos hstart]
  simp [ofStart, ← hs]

private theorem asReceived_attached {e : Event} (he : ¬ e.isStart) (hs : e.session = none)
    (session : Payload) : Event.asReceived { e with session := some session } = e := by
  have hother : ¬ Event.isStart { e with session := some session } := he
  rw [Event.asReceived, if_neg hother]
  simp [← hs]

theorem reduceOption_cons (batch : Option (List Event)) (batches : List (Option (List Event))) :
    (batch :: batches).reduceOption = batch.toList ++ batches.reduceOption := by
  cases batch with
  | none => simp
  | some events => simp

variable {σ : Type} [SessionCache σ]

theorem map_fst_lookups (events : List Event) (cache : σ) :
    (lookups events cache).1.map Prod.fst = events := by
  induction events generalizing cache with
  | nil => rfl
  | cons e rest ih => simp [lookups, ih]

private theorem map_asReceived_withSession? (found : List (Event × Option Payload))
    (h : ∀ x ∈ found, ¬ x.1.isStart ∧ x.1.session = none) :
    (found.filterMap withSession?).map Event.asReceived =
      (found.filter (!·.2.isNone)).map Prod.fst := by
  induction found with
  | nil => rfl
  | cons x found ih =>
    obtain ⟨e, session⟩ := x
    obtain ⟨hx, hfound⟩ := List.forall_mem_cons.1 h
    cases session with
    | none => simpa [List.filterMap_cons] using ih hfound
    | some session => simpa [asReceived_attached hx.1 hx.2] using ih hfound

/-- The end of a batch tells its events apart into those that are dropped and those that get a
session. -/
theorem perm_resolved (c : Correlator σ) (h : ∀ e ∈ c.pending, e.session = none) :
    c.pending.Perm (c.unresolved ++ c.resolved.map Event.asReceived) := by
  have hstarts : ((c.pending.filter Event.isStart).map ofStart).map Event.asReceived =
      c.pending.filter Event.isStart := by
    rw [List.map_map]
    refine (List.map_congr_left fun e he => ?_).trans (List.map_id _)
    obtain ⟨hmem, hstart⟩ := List.mem_filter.1 he
    exact asReceived_ofStart hstart (h e hmem)
  have hfst : c.found.1.map Prod.fst = c.pending.filter (!·.isStart) := map_fst_lookups _ _
  have hfound : ∀ x ∈ c.found.1, ¬ x.1.isStart ∧ x.1.session = none := by
    intro x hx
    have hmem : x.1 ∈ c.pending.filter (!·.isStart) := hfst ▸ List.mem_map_of_mem hx
    obtain ⟨hpending, hother⟩ := List.mem_filter.1 hmem
    exact ⟨by simpa using hother, h _ hpending⟩
  have hothers : (c.unresolved ++ (c.found.1.filterMap withSession?).map Event.asReceived).Perm
      (c.pending.filter (!·.isStart)) := by
    rw [map_asReceived_withSession? _ hfound, unresolved, ← List.map_append, ← hfst]
    exact (List.filter_append_perm _ _).map _
  calc
    c.pending.Perm (c.pending.filter Event.isStart ++ c.pending.filter (!·.isStart)) :=
      (List.filter_append_perm _ _).symm
    _ |>.Perm (c.pending.filter Event.isStart ++
        (c.unresolved ++ (c.found.1.filterMap withSession?).map Event.asReceived)) :=
      hothers.symm.append_left _
    _ |>.Perm (c.unresolved ++ c.resolved.map Event.asReceived) := by
      rw [resolved, List.map_append, hstarts]
      exact List.perm_append_comm_assoc _ _ _

private theorem perm_call (c : Correlator σ) (s : Stats) (x : Call)
    (h : ∀ e ∈ c.pending ++ x.pushed, e.session = none) :
    (c.pending ++ x.pushed).Perm
      (c.dropped x ++ ((c.call s x).1.toList.flatten.map Event.asReceived ++
        (c.call s x).2.1.pending)) := by
  rw [call_eq, dropped]
  split
  · rw [flush_eq]
    simpa using perm_resolved (c.add x) h
  · simp [add]

/-- What is pending after a call was pending or pushed before. -/
theorem mem_pending_call {c : Correlator σ} {s : Stats} {x : Call} {e : Event}
    (h : e ∈ (c.call s x).2.1.pending) : e ∈ c.pending ++ x.pushed := by
  rw [call_eq] at h
  split at h
  · rw [flush_eq] at h
    exact absurd h List.not_mem_nil
  · exact h

theorem perm_run (c : Correlator σ) (s : Stats) (calls : List Call)
    (h : ∀ e ∈ c.pending ++ pushedBy calls, e.session = none) :
    (c.pending ++ pushedBy calls).Perm
      (c.droppedBy calls ++ ((c.run s calls).1.reduceOption.flatten.map Event.asReceived ++
        (c.run s calls).2.1.pending)) := by
  induction calls generalizing c s with
  | nil => simp [pushedBy, droppedBy, run]
  | cons x calls ih =>
    have hx : ∀ e ∈ c.pending ++ x.pushed, e.session = none := by
      intro e he
      refine h e ?_
      simp only [pushedBy, List.flatMap_cons, List.mem_append] at he ⊢
      tauto
    have hcalls : ∀ e ∈ (c.call s x).2.1.pending ++ pushedBy calls, e.session = none := by
      intro e he
      rcases List.mem_append.1 he with he | he
      · exact hx e (mem_pending_call he)
      · refine h e ?_
        simp only [pushedBy, List.flatMap_cons, List.mem_append] at he ⊢
        exact Or.inr (Or.inr he)
    have hfirst := perm_call c s x hx
    have hrest := ih (c.call s x).2.1 (c.call s x).2.2 hcalls
    have hnext := (call_stats c s .empty x).2
    simp only [run_cons, droppedBy, reduceOption_cons, List.flatten_append, List.map_append,
      pushedBy, List.flatMap_cons, ← hnext]
    -- Both sides hold every event as often as the first call and the others together.
    classical
    rw [List.perm_iff_count] at hfirst hrest ⊢
    intro e
    have hfirst := hfirst e
    have hrest := hrest e
    simp only [List.count_append, pushedBy] at hfirst hrest ⊢
    omega

/-- A flush leaves nothing pending. -/
theorem pending_flush (c : Correlator σ) (s : Stats) : (c.flush s).2.1.pending = [] := by
  rw [flush_eq]

/-- Events that are pushed one by one and flushed at the end are dropped or stand in one batch. -/
theorem perm_batches (c : Correlator σ) (hc : c.pending = []) (events : List Event)
    (h : ∀ e ∈ events, e.session = none) :
    events.Perm (c.droppedBy (events.map .push ++ [.flush]) ++
      (c.batches events).flatten.map Event.asReceived) := by
  have hpushed : pushedBy (events.map .push ++ [.flush]) = events := by
    have hflush : pushedBy [.flush] = [] := rfl
    rw [pushedBy, List.flatMap_append]
    exact (congrArg₂ _ (pushedBy_map_push events) hflush).trans (List.append_nil _)
  have hrun := perm_run c .empty (events.map .push ++ [.flush])
  rw [hc, hpushed, List.nil_append] at hrun
  have hend : (c.run .empty (events.map .push ++ [.flush])).2.1.pending = [] := by
    rw [(run_concat c .empty .empty _ .flush).2]
    exact pending_flush _ _
  have hperm := hrun h
  rw [hend, List.append_nil] at hperm
  exact hperm

theorem get_counts_lookups (found : List (Event × Option Payload)) (s : Stats) (d : Counter) :
    (found.foldl countLookup s).counts.get d = s.counts.get d + UInt64.ofNat
      (match d with
      | .cacheHits => (found.filter (·.2.isSome)).length
      | .unresolved => (found.filter (·.2.isNone)).length
      | _ => 0) := by
  induction found generalizing s with
  | nil => cases d <;> simp
  | cons x found ih =>
    obtain ⟨e, session⟩ := x
    rw [List.foldl_cons, ih]
    cases session with
    | none =>
      cases d <;> simp [countLookup]
      ac_rfl
    | some session =>
      cases d <;> simp [countLookup]
      ac_rfl

theorem get_counts_record (x : Call) (s : Stats) (d : Counter) :
    (x.record s).counts.get d =
      s.counts.get d + UInt64.ofNat (if d = .batched then x.pushed.length else 0) := by
  cases x with
  | push e => by_cases hd : d = .batched <;> simp [Call.record, Call.pushed, hd]
  | flush => simp [Call.record, Call.pushed]

/-- Cache hits apart, a call counts what it pushes and what it drops. -/
theorem get_counts_call (c : Correlator σ) (s : Stats) (x : Call) {d : Counter}
    (hd : d ≠ .cacheHits) :
    (c.call s x).2.2.counts.get d = s.counts.get d + UInt64.ofNat
      (match d with
      | .batched => x.pushed.length
      | .unresolved => (c.dropped x).length
      | _ => 0) := by
  rw [call_eq, dropped]
  split
  · rw [flush_eq]
    simp only [get_counts_lookups, get_counts_record, unresolved, List.length_map]
    cases d with
    | cacheHits => exact absurd rfl hd
    | _ => simp
  · rw [get_counts_record]
    cases d <;> simp

theorem get_counts_run (c : Correlator σ) (s : Stats) (calls : List Call) {d : Counter}
    (hd : d ≠ .cacheHits) :
    (c.run s calls).2.2.counts.get d = s.counts.get d + UInt64.ofNat
      (match d with
      | .batched => (pushedBy calls).length
      | .unresolved => (c.droppedBy calls).length
      | _ => 0) := by
  induction calls generalizing c s with
  | nil => cases d <;> simp [run, pushedBy, droppedBy]
  | cons x calls ih =>
    have hcall := get_counts_call c s x hd
    have hsame := (call_stats c s .empty x).2
    rw [run_cons, ih, hcall, hsame, UInt64.add_assoc, ← UInt64.ofNat_add]
    congr 2
    cases d <;> simp [pushedBy, droppedBy]

end Correlator
end PlaybackRelay

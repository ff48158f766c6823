import Mathlib.Data.List.Forall2
import PlaybackRelay.Proofs.Session.Conservation

/-!
What comes out of a correlator, whatever its cache does. Nothing is assumed of the cache, whose
state may hold a clock or a plan of what it forgets and when. Main statement: `emitted_run`.
-/
namespace PlaybackRelay.Correlator

/-- An event with the session that was found for it. -/
def attachTo (x : Event × Payload) : Event := { x.1 with session := some x.2 }

/-- What an event becomes in a batch. An event that starts a session gives its payload away to it;
any other event keeps its payload and gets some session. -/
inductive Emits : Event → Event → Prop
  | start {e : Event} (hstart : e.isStart) : Emits e (ofStart e)
  | other {e : Event} (hother : ¬ e.isStart) (session : Payload) : Emits e (attachTo (e, session))

/-- What may come of a segment of events when it ends: its starts, and then some of its other
events, each in the order of their arrival. -/
structure Yields (limit : Nat) (segment : List Event) (batch : Option (List Event)) : Prop where
  ne_nil : batch ≠ some []
  length_le : (batch.getD []).length ≤ limit
  resolved : ∃ kept : List (Event × Payload),
    (kept.map Prod.fst).Sublist (segment.filter (!·.isStart)) ∧
      batch.getD [] = (segment.filter Event.isStart).map ofStart ++ kept.map attachTo

theorem Yields.none (limit : Nat) : Yields limit [] none :=
  ⟨nofun, Nat.zero_le _, [], .slnil, rfl⟩

theorem Emits.isStart_eq {e emitted : Event} (h : Emits e emitted) :
    emitted.isStart = e.isStart := by
  cases h with
  | start _ | other _ _ => rfl

private theorem length_filter_emitted {origins emitted : List Event}
    (h : List.Forall₂ Emits origins emitted) :
    (emitted.filter (!·.isStart)).length = (origins.filter (!·.isStart)).length := by
  induction h with
  | nil => rfl
  | @cons e e' origins emitted he _ ih =>
    cases hstart : e.isStart with
    | true => simpa [hstart, he.isStart_eq] using ih
    | false => simpa [hstart, he.isStart_eq] using ih

variable {σ : Type} [SessionCache σ]

/-- The events of the current batch whose sessions would be found, if it ended now. -/
def kept (c : Correlator σ) : List (Event × Payload) :=
  c.found.1.filterMap fun x => x.2.map fun session => (x.1, session)

/-- The events that would become the current batch, if it ended now. -/
def origins (c : Correlator σ) : List Event :=
  c.pending.filter Event.isStart ++ c.kept.map Prod.fst

theorem resolved_eq_kept (c : Correlator σ) :
    c.resolved = (c.pending.filter Event.isStart).map ofStart ++ c.kept.map attachTo := by
  rw [resolved, kept, List.map_filterMap]
  congr 2
  funext x
  obtain ⟨e, session⟩ := x
  cases session <;> rfl

theorem map_fst_kept (c : Correlator σ) :
    c.kept.map Prod.fst = (c.found.1.filter (·.2.isSome)).map Prod.fst := by
  unfold kept
  induction c.found.1 with
  | nil => rfl
  | cons x found ih =>
    obtain ⟨e, session⟩ := x
    cases session with
    | none => simpa [List.filterMap_cons] using ih
    | some session => simpa [List.filterMap_cons] using ih

theorem map_fst_found (c : Correlator σ) :
    c.found.1.map Prod.fst = c.pending.filter (!·.isStart) := map_fst_lookups _ _

theorem kept_sublist (c : Correlator σ) :
    (c.kept.map Prod.fst).Sublist (c.pending.filter (!·.isStart)) := by
  rw [map_fst_kept, ← map_fst_found]
  exact List.filter_sublist.map Prod.fst

theorem perm_origins (c : Correlator σ) : c.pending.Perm (c.unresolved ++ c.origins) := by
  have hothers : (c.unresolved ++ c.kept.map Prod.fst).Perm (c.pending.filter (!·.isStart)) := by
    have hsplit := List.filter_append_perm (fun x : Event × Option Payload => x.2.isNone) c.found.1
    rw [unresolved, map_fst_kept, ← map_fst_found, ← List.map_append]
    simpa using hsplit.map Prod.fst
  calc
    c.pending.Perm (c.pending.filter Event.isStart ++ c.pending.filter (!·.isStart)) :=
      (List.filter_append_perm _ _).symm
    _ |>.Perm (c.pending.filter Event.isStart ++ (c.unresolved ++ c.kept.map Prod.fst)) :=
      hothers.symm.append_left _
    _ |>.Perm (c.unresolved ++ c.origins) := List.perm_append_comm_assoc _ _ _

theorem emits_origins (c : Correlator σ) : List.Forall₂ Emits c.origins c.resolved := by
  have hstarts : List.Forall₂ Emits (c.pending.filter Event.isStart)
      ((c.pending.filter Event.isStart).map ofStart) := by
    rw [List.forall₂_map_right_iff, List.forall₂_same]
    exact fun e he => .start (List.mem_filter.1 he).2
  have hothers : List.Forall₂ Emits (c.kept.map Prod.fst) (c.kept.map attachTo) := by
    rw [List.forall₂_map_left_iff, List.forall₂_map_right_iff, List.forall₂_same]
    intro x hx
    have hmem := (c.kept_sublist).subset (List.mem_map_of_mem hx)
    exact .other (by simpa using (List.mem_filter.1 hmem).2) x.2
  rw [resolved_eq_kept, origins]
  exact List.rel_append hstarts hothers

theorem yields_resolved {c : Correlator σ} {limit : Nat} (h : c.pending.length ≤ limit) :
    Yields limit c.pending (toBatch c.resolved) := by
  have hbatch : (toBatch c.resolved).getD [] = c.resolved := by
    cases c.resolved <;> rfl
  refine ⟨?_, ?_, c.kept, c.kept_sublist, hbatch.trans c.resolved_eq_kept⟩
  · cases c.resolved <;> simp [toBatch]
  · have horigins := c.emits_origins.length_eq
    have hperm := c.perm_origins.length_eq
    rw [List.length_append] at hperm
    rw [hbatch]
    omega

/-- The segment of events that a call ends. -/
def ended (c : Correlator σ) (x : Call) : List Event := if c.due x then (c.add x).pending else []

private theorem pending_call (c : Correlator σ) (s : Stats) (x : Call) :
    c.ended x ++ (c.call s x).2.1.pending = c.pending ++ x.pushed := by
  rw [call_eq, ended]
  split
  · rw [flush_eq]
    exact List.append_nil _
  · rfl

private theorem batchSize_call (c : Correlator σ) (s : Stats) (x : Call) :
    (c.call s x).2.1.batchSize = c.batchSize := by
  rw [call_eq]
  split
  · rw [flush_eq]
    rfl
  · rfl

private theorem length_pending_call_lt {c : Correlator σ} (h : c.pending.length < c.batchSize)
    (s : Stats) (x : Call) : (c.call s x).2.1.pending.length < c.batchSize := by
  rw [call_eq]
  by_cases hdue : c.due x
  · rw [if_pos hdue, flush_eq]
    exact Nat.zero_lt_of_lt h
  · rw [if_neg hdue]
    cases x with
    | push e => simpa [due, add, Call.pushed] using hdue
    | flush => exact absurd rfl hdue

private theorem yields_call {c : Correlator σ} (h : c.pending.length < c.batchSize) (s : Stats)
    (x : Call) : Yields c.batchSize (c.ended x) (c.call s x).1 := by
  rw [call_eq, ended]
  split
  · have hlength : (c.add x).pending.length ≤ c.batchSize := by
      cases x with
      | push e => simpa [Call.pushed] using Nat.succ_le_of_lt h
      | flush => simpa [Call.pushed] using Nat.le_of_lt h
    rw [flush_eq]
    exact yields_resolved hlength
  · exact Yields.none _

/-- Each call ends a segment of the events that were pushed, if only an empty one. -/
theorem exists_segments_run {c : Correlator σ} (h : c.pending.length < c.batchSize) (s : Stats)
    (calls : List Call) :
    (c.run s calls).2.1.pending.length < c.batchSize ∧
      ∃ segments, c.pending ++ pushedBy calls =
          segments.flatten ++ (c.run s calls).2.1.pending ∧
        List.Forall₂ (Yields c.batchSize) segments (c.run s calls).1 := by
  induction calls generalizing c s with
  | nil => exact ⟨h, [], List.append_nil _, .nil⟩
  | cons x calls ih =>
    have hnext := length_pending_call_lt h s x
    have hsize := batchSize_call c s x
    obtain ⟨hend, segments, hpushed, hyields⟩ := ih (hsize ▸ hnext) (c.call s x).2.2
    rw [hsize] at hend hyields
    refine ⟨hend, c.ended x :: segments, ?_, .cons (yields_call h s x) hyields⟩
    rw [run_cons, List.flatten_cons, List.append_assoc, ← hpushed, ← List.append_assoc,
      pending_call, pushedBy, List.flatMap_cons, List.append_assoc]
    rfl

private theorem exists_origins_call (c : Correlator σ) (s : Stats) (x : Call) :
    ∃ origins, List.Forall₂ Emits origins (c.call s x).1.toList.flatten ∧
      (c.pending ++ x.pushed).Perm (c.dropped x ++ (origins ++ (c.call s x).2.1.pending)) := by
  rw [call_eq, dropped]
  split
  · rw [flush_eq, flatten_toList_toBatch]
    refine ⟨(c.add x).origins, (c.add x).emits_origins, ?_⟩
    simpa using (c.add x).perm_origins
  · exact ⟨[], .nil, List.Perm.refl _⟩

/-- Every event that was pushed is still pending, was dropped, or has become one event of one
batch. -/
theorem exists_origins_run (c : Correlator σ) (s : Stats) (calls : List Call) :
    ∃ origins, List.Forall₂ Emits origins (c.run s calls).1.reduceOption.flatten ∧
      (c.pending ++ pushedBy calls).Perm
        (c.droppedBy calls ++ (origins ++ (c.run s calls).2.1.pending)) := by
  induction calls generalizing c s with
  | nil => exact ⟨[], .nil, by simp [pushedBy, droppedBy, run]⟩
  | cons x calls ih =>
    obtain ⟨first, hfirst, hpermFirst⟩ := exists_origins_call c s x
    obtain ⟨rest, hrest, hpermRest⟩ := ih (c.call s x).2.1 (c.call s x).2.2
    have hnext := (call_stats c s .empty x).2
    refine ⟨first ++ rest, ?_, ?_⟩
    · rw [run_cons, reduceOption_cons, List.flatten_append]
      exact List.rel_append hfirst hrest
    · rw [run_cons, droppedBy, ← hnext, pushedBy, List.flatMap_cons]
      classical
      rw [List.perm_iff_count] at hpermFirst hpermRest ⊢
      intro e
      have hcountFirst := hpermFirst e
      have hcountRest := hpermRest e
      simp only [List.count_append, pushedBy] at hcountFirst hcountRest ⊢
      omega

private theorem get_cacheHits_call (c : Correlator σ) (s : Stats) (x : Call) :
    (c.call s x).2.2.counts.get .cacheHits = s.counts.get .cacheHits +
      UInt64.ofNat ((c.call s x).1.toList.flatten.filter (!·.isStart)).length := by
  rw [call_eq]
  split
  · rw [flush_eq, flatten_toList_toBatch]
    have hothers : (c.add x).origins.filter (!·.isStart) = (c.add x).kept.map Prod.fst := by
      have hkept : ∀ e ∈ (c.add x).kept.map Prod.fst, !e.isStart := fun e he =>
        (List.mem_filter.1 ((c.add x).kept_sublist.subset he)).2
      rw [origins, List.filter_append, List.filter_eq_self.2 hkept, List.filter_filter]
      simp
    simp only [get_counts_lookups, get_counts_record, length_filter_emitted (emits_origins _),
      hothers, map_fst_kept, List.length_map]
    simp
  · rw [get_counts_record]
    simp

theorem get_cacheHits_run (c : Correlator σ) (s : Stats) (calls : List Call) :
    (c.run s calls).2.2.counts.get .cacheHits = s.counts.get .cacheHits +
      UInt64.ofNat ((c.run s calls).1.reduceOption.flatten.filter (!·.isStart)).length := by
  induction calls generalizing c s with
  | nil => simp [run]
  | cons x calls ih =>
    rw [run_cons, ih, get_cacheHits_call, reduceOption_cons, List.flatten_append,
      List.filter_append, List.length_append, UInt64.ofNat_add, UInt64.add_assoc]

end PlaybackRelay.Correlator

import PlaybackRelay.Proofs.Pipeline.Counting

/-!
No event is lost or duplicated. When a run is over in which no write crashed or was given up, every
event that was decoded was evicted, was dropped, or is one document of one batch that was handed
over, in whatever order the tasks took their steps. Main statement: `conserved_of_result`.
-/
namespace PlaybackRelay.Pipeline

variable {σ : Type} [SessionCache σ]

/-- All that every step of a run preserves. -/
structure Consistent (p : Plan) (c : Correlator σ) (w : World σ) (l : Ledger) : Prop where
  balanced : l.Balanced w.inFlight
  closing : w.Closing
  crashed : w.batcher = .crashed → p.brokenCache
  tracked : w.batcher ≠ .crashed → w.Tracked c l
  numbered : w.Numbered
  counted : w.Counted l

namespace Consistent

variable {p : Plan} {c : Correlator σ} {w : World σ} {l : Ledger}

theorem start (p : Plan) (cache : σ) (capacity batchSize : Nat) :
    Consistent p (.ofCache cache batchSize) (ofCache cache capacity batchSize).world .empty where
  balanced := .empty
  closing := ⟨nofun, nofun⟩
  crashed := nofun
  tracked _ := ⟨rfl, rfl, rfl⟩
  numbered := ⟨.nil, nofun⟩
  counted := by constructor <;> exact Stats.get_counts_empty _

theorem step {a : Action} {w' : World σ} (hstep : World.Step p w a w') (h : Consistent p c w l) :
    Consistent p c w' (w.enter p l a) where
  balanced := World.balanced_step hstep h.balanced
  closing := World.closing_step hstep h.closing
  crashed := World.crashed_step hstep h.crashed
  tracked := World.tracked_step hstep h.tracked
  numbered := World.numbered_step hstep h.numbered
  counted := World.counted_step hstep h.counted

theorem of_follow? {cache : σ} {capacity batchSize : Nat} {actions : List Action}
    (hrun : (ofCache cache capacity batchSize).world.follow? p actions = some w) :
    Consistent p (.ofCache cache batchSize) w
      ((ofCache cache capacity batchSize).world.ledger p .empty actions) :=
  World.ledger_induction (fun _ _ _ _ _ hstep h => h.step hstep) hrun
    (start p cache capacity batchSize)

theorem not_crashed (h : Consistent p c w l) (hcache : p.brokenCache = false) :
    w.batcher ≠ .crashed := by
  intro hcrashed
  rw [h.crashed hcrashed] at hcache
  contradiction

theorem decoded_perm (h : Consistent p c w l) (hended : w.batcher = .ended) :
    l.decoded.Perm (l.evicted ++ l.batched) := by
  have hflight := h.closing.inFlight_eq (by rw [hended]; rfl)
  simpa [hflight] using h.balanced.perm

/-- The last batch is among those that were handed over. -/
theorem handed_eq (h : Consistent p c w l) (hended : w.batcher = .ended) :
    w.handed = c.batches l.batched := by
  have hhanded := (h.tracked (by rw [hended]; nofun)).handed
  have hoffered : w.batcher.offered = [] := by rw [hended]; rfl
  rw [hoffered, List.append_nil, World.calls, hended] at hhanded
  exact hhanded

theorem unresolved_eq (h : Consistent p c w l) (hended : w.batcher = .ended) :
    l.unresolved = c.droppedBy (l.batched.map .push ++ [.flush]) := by
  have hunresolved := (h.tracked (by rw [hended]; nofun)).unresolved
  rw [World.calls, hended] at hunresolved
  exact hunresolved

theorem batched_perm (h : Consistent p c w l) (hpending : c.pending = [])
    (hended : w.batcher = .ended) :
    l.batched.Perm (l.unresolved ++ w.handed.flatten.map Event.asReceived) := by
  have hfresh : ∀ e ∈ l.batched, e.session = none := by
    intro e he
    refine h.balanced.fresh e ((h.decoded_perm hended).mem_iff.2 ?_)
    exact List.mem_append_right _ he
  rw [h.unresolved_eq hended, h.handed_eq hended]
  exact Correlator.perm_batches c hpending l.batched hfresh

end Consistent

namespace World

omit [SessionCache σ] in
/-- A run that is over without a crash has come to the end of its batcher. -/
theorem ended_of_result? {w : World σ} {r : Except RunError Snapshot} (h : w.result? = some r)
    (hcrashed : w.batcher ≠ .crashed) : w.batcher = .ended := by
  unfold result? at h
  split at h
  case h_1 hbatcher => contradiction
  case h_2 hbatcher | h_3 hbatcher => exact hbatcher
  case h_4 => contradiction

omit [SessionCache σ] in
/-- A write that neither crashed nor was given up was written or refused. -/
theorem sum_documents {w : World σ}
    (h : ∀ x ∈ w.done, ∃ ending, x.2 = some ending ∧ ending ≠ .crashed) :
    w.documents Ending.isWritten + w.documents Ending.isRefused =
      (w.done.map (·.1.batch.length)).sum := by
  unfold documents
  generalize w.done = done at h
  induction done with
  | nil => rfl
  | cons x done ih =>
    obtain ⟨⟨ending, hending, hsound⟩, hdone⟩ := List.forall_mem_cons.1 h
    have hrest := ih hdone
    cases ending with
    | crashed => contradiction
    | written failed elapsed | refused elapsed =>
      simp only [List.filter_cons, hending, Option.any_some, Ending.isWritten, Ending.isRefused,
        if_true, Bool.false_eq_true, if_false, List.map_cons, List.sum_cons]
      omega

omit [SessionCache σ] in
theorem Numbered.sum_done {w : World σ} (h : w.Numbered) (hended : w.batcher = .ended) :
    (w.done.map (·.1.batch.length)).sum = w.handed.flatten.length := by
  have hbatches : (w.handed.mapIdx Write.mk).map Write.batch = w.handed :=
    List.ext_getElem (by simp) (by simp)
  have hperm := h.perm.map Write.batch
  rw [h.ended hended, List.nil_append, hbatches] at hperm
  simpa [Function.comp_def, List.length_flatten] using (hperm.map List.length).sum_nat

end World

/-- What became of the events of a run that is over: of each event that was decoded, and in the
counters. A batch that was handed over is one write. -/
structure Conserved (c : Correlator σ) (w : World σ) (l : Ledger) : Prop where
  fates : l.decoded.Perm (l.evicted ++ (l.unresolved ++ w.handed.flatten.map Event.asReceived))
  handed : w.handed = c.batches l.batched
  written : (w.done.map Prod.fst).Perm (w.handed.mapIdx Write.mk)
  counted : w.Counted l
  batched : w.stats.counts.get .incoming =
    w.stats.counts.get .evicted + w.stats.counts.get .batched
  settled : w.stats.counts.get .incoming =
    w.stats.counts.get .evicted + w.stats.counts.get .unresolved +
      w.stats.counts.get .persisted + UInt64.ofNat (w.documents Ending.isRefused)

/-- Holds of any run of any pipeline, whether it ends by shutdown or because the attempts are used
up. The calls on the cache return, and every write is either written or refused. -/
theorem conserved_of_result (p : Plan) (hcache : p.brokenCache = false) (cache : σ)
    (capacity batchSize : Nat) (actions : List Action) {w : World σ}
    {r : Except RunError Snapshot}
    (hrun : (ofCache cache capacity batchSize).world.follow? p actions = some w)
    (hresult : w.result? = some r)
    (hwrites : ∀ x ∈ w.done, ∃ ending, x.2 = some ending ∧ ending ≠ .crashed) :
    Conserved (.ofCache cache batchSize) w
      ((ofCache cache capacity batchSize).world.ledger p .empty actions) := by
  have h := Consistent.of_follow? hrun
  generalize (ofCache cache capacity batchSize).world.ledger p .empty actions = l at h
  have hended := World.ended_of_result? hresult (h.not_crashed hcache)
  have hdecoded := h.decoded_perm hended
  have hbatched := h.batched_perm rfl hended
  have hincoming : w.stats.counts.get .incoming =
      w.stats.counts.get .evicted + w.stats.counts.get .batched := by
    rw [h.counted.incoming, h.counted.evicted, h.counted.batched, hdecoded.length_eq,
      List.length_append, UInt64.ofNat_add]
  have hsettled : w.stats.counts.get .batched =
      w.stats.counts.get .unresolved + w.stats.counts.get .persisted +
        UInt64.ofNat (w.documents Ending.isRefused) := by
    rw [h.counted.batched, h.counted.unresolved, h.counted.persisted, hbatched.length_eq,
      List.length_append, List.length_map, ← h.numbered.sum_done hended,
      ← World.sum_documents hwrites, UInt64.ofNat_add, UInt64.ofNat_add, UInt64.add_assoc]
  constructor
  · exact hdecoded.trans (hbatched.append_left _)
  · exact h.handed_eq hended
  · simpa [h.numbered.ended hended] using h.numbered.perm
  · exact h.counted
  · exact hincoming
  · rw [hincoming, hsettled, ← UInt64.add_assoc, ← UInt64.add_assoc]

/-- Four events; the session of the last one is never started. -/
def fourEvents : List UInt8 :=
  Text.Utf8.encode ("data:[\"b\",\"END\",1,null,1,{}]\n\ndata:[\"a\",\"START\",1,null,1,{}]\n\n" ++
    "data:[\"a\",\"END\",1,null,1,{}]\n\ndata:[\"c\",\"END\",1,null,1,{}]\n\n").toList

/-- A stream that is held open behind four events. -/
def openPlan : Plan := ⟨⟨.zero, .zero, 0⟩, fun _ => .response 200 fourEvents .held, 1, false⟩

/-- The second event is pushed before the first one is received. -/
def openActions : List Action := [
  .stream, .stream, .stream, .stream, .stream, .batcher, .batcher, .stream, .stream, .batcher,
  .batcher, .stream, .stream, .leave, .stream, .batcher, .batcher, .batcher, .batcher, .batcher,
  .save 0 (.written 0 .zero), .batcher]

/-- One event is evicted, one is dropped, and two are written. -/
theorem conserved_of_shutdown :
    ∃ w, (ofCache (RecentSessions.ofCapacity 1) 1 5).world.follow? openPlan openActions = some w ∧
      (w.stats.counts.evicted, w.stats.counts.unresolved, w.stats.counts.persisted) = (1, 1, 2) ∧
      Conserved (.ofCache (RecentSessions.ofCapacity 1) 5) w
        ((ofCache (RecentSessions.ofCapacity 1) 1 5).world.ledger openPlan .empty openActions) := by
  have hend :
      ((ofCache (RecentSessions.ofCapacity 1) 1 5).world.follow? openPlan openActions).any
        (fun w => w.result?.isSome && (w.done.all (·.2.any Ending.isWritten) &&
          (w.stats.counts.evicted, w.stats.counts.unresolved, w.stats.counts.persisted) ==
            (1, 1, 2))) = true := by
    decide +kernel
  obtain ⟨w, hrun, hw⟩ := (Option.any_eq_true _ _).1 hend
  obtain ⟨hresult, hw⟩ := Bool.and_eq_true_iff.1 hw
  obtain ⟨hdone, hcounts⟩ := Bool.and_eq_true_iff.1 hw
  obtain ⟨r, hresult⟩ := Option.isSome_iff_exists.1 hresult
  refine ⟨w, hrun, eq_of_beq hcounts, ?_⟩
  refine conserved_of_result openPlan rfl _ 1 5 openActions hrun hresult fun x hx => ?_
  obtain ⟨ending, hending, hwritten⟩ := (Option.any_eq_true _ _).1 (List.all_eq_true.1 hdone x hx)
  refine ⟨ending, hending, ?_⟩
  rintro rfl
  exact Bool.false_ne_true hwritten

end PlaybackRelay.Pipeline

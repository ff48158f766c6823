import PlaybackRelay.Proofs.Pipeline.Conservation

/-!
The writes of a pipeline. Batches are handed over in the order in which the correlator emits them,
each to one write, of which only so many are in flight; and each write that ends is counted once,
whatever the other tasks do in between. Main statement: `writers_of_follow?`.
-/
namespace PlaybackRelay

namespace Pipeline

open Correlator (Call)

/-- What a write of so many documents adds to a counter when it ends. -/
def Ending.adds (size : Nat) : Ending → Counter → Nat
  | .written _ _, .batchesWritten => 1
  | .written _ _, .persisted => size
  | .written failed _, .documentFailures => failed
  | .refused _, .batchesFailed => 1
  | _, _ => 0

theorem Ending.get_counts_record (ending : Ending) (size : Nat) (s : Stats) (d : Counter) :
    (ending.record size s).counts.get d =
      s.counts.get d + UInt64.ofNat (ending.adds size d) := by
  cases ending with
  | written failed elapsed =>
    rw [record, Stats.get_counts_recordWrite]
    cases d <;> simp [adds]
  | refused elapsed =>
    rw [record, Stats.recordWriteFailed]
    cases d <;> simp [adds]
  | crashed => cases d <;> simp [record, adds]

/-- The counters that only writes change. -/
def countsWrites : Counter → Bool
  | .persisted | .documentFailures | .batchesWritten | .batchesFailed => true
  | _ => false

theorem ne_of_countsWrites {c d : Counter} (hd : countsWrites d) (hc : ¬ countsWrites c) :
    d ≠ c := by
  rintro rfl
  exact hc hd

theorem get_counts_count_of_ne {s : Stats} {c d : Counter} (h : d ≠ c) :
    (s.count c).counts.get d = s.counts.get d := by
  rw [Stats.get_counts_count, if_neg h]

/-- What a write that is over has added to a counter. One that was given up has added nothing. -/
def addedBy (d : Counter) (x : Write × Option Ending) : Nat :=
  (x.2.map (·.adds x.1.batch.length d)).getD 0

/-- Whether a write was saved or refused. -/
def hasOutcome (x : Write × Option Ending) : Bool :=
  x.2.any fun ending => ending.isWritten || ending.isRefused

/-- Every outcome is counted as one batch, in one of two ways. -/
theorem addedBy_batches (x : Write × Option Ending) :
    addedBy .batchesWritten x + addedBy .batchesFailed x = if hasOutcome x then 1 else 0 := by
  obtain ⟨write, _ | ending⟩ := x
  · rfl
  · cases ending <;> rfl

variable {σ : Type}

namespace World

/-- What the writes that are over have added to a counter. -/
def settled (w : World σ) (d : Counter) : Nat := (w.done.map (addedBy d)).sum

/-- The number of writes that were saved or refused. -/
def outcomes (w : World σ) : Nat := w.done.countP hasOutcome

theorem settled_batches (w : World σ) :
    w.settled .batchesWritten + w.settled .batchesFailed = w.outcomes := by
  unfold settled outcomes
  induction w.done with
  | nil => rfl
  | cons x done ih =>
    have hx := addedBy_batches x
    rw [List.countP_cons, List.map_cons, List.map_cons, List.sum_cons, List.sum_cons]
    omega

theorem settled_endBatcher (w : World σ) (batcher : Batcher) (d : Counter) :
    (w.endBatcher batcher).settled d = w.settled d := by
  simp [settled, endBatcher, addedBy, Function.comp_def]

variable [SessionCache σ]

/-- The batches that the correlator emits in a step. A call that crashes emits none. -/
def emits (w w' : World σ) : Action → List (List Event)
  | .batcher =>
    match w'.batcher, w.batcher.call? with
    | .crashed, _ | _, none => []
    | _, some x => (w.correlator.call w.stats x).1.toList
  | .stream | .leave | .save .. | .giveUp => []

/-- The batches that the correlator emits in a run, the first one first. -/
def emitted (p : Plan) (w : World σ) : List Action → List (List Event)
  | [] => []
  | a :: actions =>
    match w.step? p a with
    | some w' => w.emits w' a ++ w'.emitted p actions
    | none => []

variable {p : Plan} {w w' : World σ} {a : Action}

theorem emits_of_none (h : w.batcher.call? = none) : w.emits w' a = [] := by
  cases a with
  | batcher =>
    rw [emits, h]
    cases w'.batcher <;> rfl
  | _ => rfl

private theorem emits_of_call {x : Call} (h : w.batcher.call? = some x)
    (hsound : w'.batcher ≠ .crashed) :
    w.emits w' .batcher = (w.correlator.call w.stats x).1.toList := by
  rw [emits, h]
  cases hbatcher : w'.batcher with
  | crashed => exact absurd hbatcher hsound
  | _ => rfl

/-- Whatever is emitted is offered before anything else is, and handed over next. -/
theorem offered_step (hstep : Step p w a w') :
    w'.handed ++ w'.batcher.offered = w.handed ++ w.batcher.offered ++ w.emits w' a := by
  cases hstep with
  | stream _ | close _ | leave _ | save _ => exact (List.append_nil _).symm
  | receive hbatcher _ | finish hbatcher _ | drain hbatcher _ =>
    rw [emits_of_none (by rw [hbatcher]; rfl), hbatcher]
    exact (List.append_nil _).symm
  | @call x hbatcher _ =>
    rw [emits_of_call hbatcher (Batcher.afterCall_ne_crashed _ _),
      Batcher.offered_of_call? hbatcher, List.append_nil]
    exact congrArg (w.handed ++ ·) (Batcher.offered_afterCall x _)
  | crash hbatcher _ =>
    rw [Batcher.offered_of_call? hbatcher]
    exact (List.append_nil _).symm
  | @handOver batch last hbatcher _ =>
    rw [emits_of_none (by rw [hbatcher]; rfl), hbatcher]
    cases last <;> simp [beginWrite, Batcher.offered]
  | giveUp hbatcher _ =>
    rw [hbatcher]
    exact (List.append_nil _).symm

private theorem length_writes_step (hstep : Step p w a w') (h : w.writes.length ≤ p.writeLimit) :
    w'.writes.length ≤ p.writeLimit := by
  cases hstep with
  | stream _ | close _ | leave _ | receive _ _ | finish _ _ | call _ _ | drain _ _ => exact h
  | handOver _ hlimit => simpa [beginWrite] using Nat.succ_le_of_lt hlimit
  | save _ => exact (List.length_filter_le _ _).trans h
  | crash _ _ | giveUp _ _ => exact Nat.zero_le _

omit [SessionCache σ] in
private theorem get_counts_stepStream {stream : Stream.Task} {intake : Stream.Intake} {d : Counter}
    (hstep : Stream.Task.Step p.backoff p.connection w.stream w.intake stream intake)
    (hd : countsWrites d) : intake.stats.counts.get d = w.stats.counts.get d := by
  cases hstep with
  | connect _ | exhaust _ _ | reconnect _ => rfl
  | event _ _ => exact get_counts_count_of_ne (ne_of_countsWrites hd nofun)
  | malformed _ _ => exact get_counts_count_of_ne (ne_of_countsWrites hd nofun)
  | retry _ _ => exact get_counts_count_of_ne (ne_of_countsWrites hd nofun)
  | push _ =>
    split
    · exact get_counts_count_of_ne (ne_of_countsWrites hd nofun)
    · rfl

/-- No step but the end of a write changes what writes are counted by. -/
theorem settled_step {d : Counter} (hd : countsWrites d) (hstep : Step p w a w')
    (h : w.stats.counts.get d = UInt64.ofNat (w.settled d)) :
    w'.stats.counts.get d = UInt64.ofNat (w'.settled d) := by
  cases hstep with
  | stream hstep => exact (get_counts_stepStream hstep hd).trans h
  | close _ | leave _ | receive _ _ | finish _ _ | drain _ _ | handOver _ _ => exact h
  | @call x _ _ =>
    have hhits : d ≠ .cacheHits := ne_of_countsWrites hd nofun
    refine (Correlator.get_counts_call w.correlator w.stats x hhits).trans ?_
    rw [h]
    cases d with
    | persisted | documentFailures | batchesWritten | batchesFailed => exact UInt64.add_zero _
    | _ => contradiction
  | @crash x _ _ =>
    rw [settled_endBatcher]
    have hbatched : d ≠ .batched := ne_of_countsWrites hd nofun
    refine (Correlator.get_counts_record x w.stats d).trans ?_
    rw [h, if_neg hbatched]
    exact UInt64.add_zero _
  | @save write _ ending _ =>
    refine (ending.get_counts_record write.batch.length w.stats d).trans ?_
    rw [h, ← UInt64.ofNat_add]
    congr 1
    simp [settled, addedBy]
  | giveUp _ _ =>
    rw [settled_endBatcher]
    exact h

/-- A write that ends is taken out of those in flight and counted, and nothing else is. -/
theorem exists_of_stepSave {number : Nat} {ending : Ending}
    (hstep : w.step? p (.save number ending) = some w') (hnumbered : w.Numbered) :
    ∃ write, w.writes.Perm (write :: w'.writes) ∧ write.number = number ∧
      w'.done = w.done ++ [(write, some ending)] ∧ w'.handed = w.handed ∧
      ∀ d, w'.stats.counts.get d =
        w.stats.counts.get d + UInt64.ofNat (ending.adds write.batch.length d) := by
  cases step_of_step? hstep with
  | @save write _ _ hwrite =>
    refine ⟨write, perm_cons_filter hnumbered.nodup hwrite, ?_, rfl, rfl, fun d => ?_⟩
    · simpa using List.find?_some hwrite
    · exact ending.get_counts_record write.batch.length w.stats d

end World

/-- What holds of the writes at any time of a run that has emitted some batches so far. -/
structure Writers (p : Plan) (emitted : List (List Event)) (w : World σ) : Prop where
  bounded : w.writes.length ≤ p.writeLimit
  inOrder : w.handed ++ w.batcher.offered = emitted
  numbered : w.Numbered
  counted : ∀ d, countsWrites d → w.stats.counts.get d = UInt64.ofNat (w.settled d)

namespace Writers

variable {p : Plan} {emitted : List (List Event)} {w w' : World σ}

theorem start (p : Plan) (cache : σ) (capacity batchSize : Nat) :
    Writers p [] (ofCache cache capacity batchSize).world where
  bounded := Nat.zero_le _
  inOrder := rfl
  numbered := ⟨.nil, nofun⟩
  counted d _ := Stats.get_counts_empty d

variable [SessionCache σ]

theorem step {a : Action} (hstep : World.Step p w a w') (h : Writers p emitted w) :
    Writers p (emitted ++ w.emits w' a) w' where
  bounded := World.length_writes_step hstep h.bounded
  inOrder := by rw [World.offered_step hstep, h.inOrder]
  numbered := World.numbered_step hstep h.numbered
  counted d hd := World.settled_step hd hstep (h.counted d hd)

theorem follow {actions : List Action} (hrun : w.follow? p actions = some w')
    (h : Writers p emitted w) : Writers p (emitted ++ w.emitted p actions) w' := by
  induction actions generalizing w emitted with
  | nil =>
    obtain rfl := Option.some.inj hrun
    rw [World.emitted, List.append_nil]
    exact h
  | cons a actions ih =>
    obtain ⟨next, hnext, hrest⟩ := Option.bind_eq_some_iff.1 hrun
    rw [World.emitted, hnext, ← List.append_assoc]
    exact ih hrest (h.step (World.step_of_step? hnext))

end Writers

/-- At any time of any run of any pipeline. A batch is started when it is handed over; it is one
write then, numbered by the order in which it was emitted. A write that ends changes the counters by
what it adds, and all that they hold was added in this way. -/
theorem writers_of_follow? [SessionCache σ] (p : Plan) (cache : σ) (capacity batchSize : Nat)
    (actions : List Action) {w : World σ}
    (hrun : (ofCache cache capacity batchSize).world.follow? p actions = some w) :
    w.writes.length ≤ max 1 p.maxWrites ∧
      w.handed ++ w.batcher.offered =
        (ofCache cache capacity batchSize).world.emitted p actions ∧
      (w.writes ++ w.done.map Prod.fst).Perm (w.handed.mapIdx Write.mk) ∧
      (∀ d, countsWrites d → w.stats.counts.get d = UInt64.ofNat (w.settled d)) ∧
      w.stats.counts.get .batchesWritten + w.stats.counts.get .batchesFailed =
        UInt64.ofNat w.outcomes ∧
      ∀ number ending w', w.step? p (.save number ending) = some w' →
        ∃ write, w.writes.Perm (write :: w'.writes) ∧ write.number = number ∧
          w'.done = w.done ++ [(write, some ending)] ∧ w'.handed = w.handed ∧
          ∀ d, w'.stats.counts.get d =
            w.stats.counts.get d + UInt64.ofNat (ending.adds write.batch.length d) := by
  have h : Writers p _ w := (Writers.start p cache capacity batchSize).follow hrun
  refine ⟨h.bounded, h.inOrder, h.numbered.perm, h.counted, ?_, fun number ending w' hstep => ?_⟩
  · rw [h.counted .batchesWritten rfl, h.counted .batchesFailed rfl, ← UInt64.ofNat_add,
      World.settled_batches]
  · exact World.exists_of_stepSave hstep h.numbered

/-- Three events, each of which is a batch of its own. -/
def threeStarts : List UInt8 :=
  Text.Utf8.encode ("data:[\"a\",\"START\",1,null,1,{}]\n\n" ++
    "data:[\"b\",\"START\",1,null,1,{}]\n\ndata:[\"c\",\"START\",1,null,1,{}]\n\n").toList

/-- No write may be in flight, which leaves room for one. -/
def crowdedPlan : Plan := ⟨⟨.zero, .zero, 0⟩, fun _ => .response 200 threeStarts .held, 0, false⟩

/-- The second batch waits for the first write to end, and the third one for the second. -/
def crowdedActions : List Action := [
  .stream, .stream, .stream, .stream, .stream, .stream, .stream, .batcher, .batcher, .batcher,
  .batcher, .batcher, .save 0 (.written 1 .zero), .batcher, .batcher, .batcher]

theorem writers_of_crowdedPlan :
    ∃ w, (ofCache (RecentSessions.ofCapacity 1) 3 1).world.follow? crowdedPlan crowdedActions =
        some w ∧
      w.writes.length = 1 ∧ w.batcher.offered.length = 1 ∧
      (w.step? crowdedPlan .batcher).isNone ∧
      w.stats.counts.batchesWritten + w.stats.counts.batchesFailed = 1 ∧
      w.handed ++ w.batcher.offered =
        (ofCache (RecentSessions.ofCapacity 1) 3 1).world.emitted crowdedPlan crowdedActions := by
  have hend :
      ((ofCache (RecentSessions.ofCapacity 1) 3 1).world.follow? crowdedPlan crowdedActions).any
        (fun w => w.writes.length == 1 && (w.batcher.offered.length == 1 &&
          ((w.step? crowdedPlan .batcher).isNone && w.outcomes == 1))) = true := by
    decide +kernel
  obtain ⟨w, hrun, hw⟩ := (Option.any_eq_true _ _).1 hend
  obtain ⟨hwrites, hw⟩ := Bool.and_eq_true_iff.1 hw
  obtain ⟨hoffered, hw⟩ := Bool.and_eq_true_iff.1 hw
  obtain ⟨hblocked, houtcomes⟩ := Bool.and_eq_true_iff.1 hw
  have hall := writers_of_follow? crowdedPlan _ 3 1 crowdedActions hrun
  refine ⟨w, hrun, eq_of_beq hwrites, eq_of_beq hoffered, hblocked, ?_, hall.2.1⟩
  rw [eq_of_beq houtcomes] at hall
  exact hall.2.2.2.2.1

end Pipeline
end PlaybackRelay

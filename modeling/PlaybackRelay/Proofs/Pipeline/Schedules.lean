import PlaybackRelay.Proofs.Pipeline.Conservation
import PlaybackRelay.Proofs.Stream.Script

/-!
The order in which the tasks take their steps does not matter. If the queue has room for all events
of the stream and the stream is never left, the batches that are handed over are those of the events
pushed one by one and flushed at the end. Main statement: `handed_of_schedule`.
-/
namespace PlaybackRelay.Pipeline

variable {σ : Type} [SessionCache σ]

/-- No event of the script is ever skipped or given up. -/
structure OnSchedule (p : Plan) (capacity : Nat) (w : World σ) (l : Ledger) : Prop where
  task : w.stream.OnScript p.backoff p.connection
  script : l.decoded ++ w.stream.ahead p.backoff p.connection =
    Stream.scriptEvents p.backoff p.connection
  capacity : w.queue.capacity = max 1 capacity
  evicted : l.evicted = []

/-- A batcher that waits for no write waits for nothing once the queue is closed. -/
theorem World.isSome_stepBatcher? {p : Plan} {w : World σ} (hclosed : w.queue.closed)
    (hwrites : w.writes = []) (hcrashed : w.batcher ≠ .crashed) (hended : w.batcher ≠ .ended) :
    (w.stepBatcher? p).isSome := by
  unfold stepBatcher?
  cases hnext : w.batcher with
  | receiving =>
    cases hreceive : w.queue.receive with
    | mk received queue =>
      cases received with
      | item e | ended => rfl
      | waiting => exact absurd hreceive (Queue.receive_ne_waiting hclosed)
  | offering batch last =>
    have hlimit : w.writes.length < p.writeLimit := by
      rw [hwrites]
      exact Nat.lt_of_lt_of_le Nat.zero_lt_one (Nat.le_max_left _ _)
    simp only [if_pos hlimit]
    rfl
  | holding e | flushing => rfl
  | draining =>
    rw [hwrites]
    rfl
  | ended | crashed => contradiction

namespace OnSchedule

variable {p : Plan} {capacity : Nat} {c : Correlator σ} {w w' : World σ} {l : Ledger}

omit [SessionCache σ] in
theorem start (p : Plan) (cache : σ) (capacity batchSize : Nat) :
    OnSchedule p capacity (ofCache cache capacity batchSize).world .empty where
  task := ⟨Nat.zero_le _, rfl⟩
  script := Stream.eventsFrom_zero
  capacity := rfl
  evicted := rfl

omit [SessionCache σ] in
private theorem decoded_enterStream :
    (w.enterStream l).decoded = l.decoded ++ w.stream.decodes := by
  unfold World.enterStream Stream.Task.decodes
  split <;> simp_all

omit [SessionCache σ] in
theorem of_eq {l' : Ledger} (h : OnSchedule p capacity w l) (hstream : w'.stream = w.stream)
    (hcapacity : w'.queue.capacity = w.queue.capacity) (hdecoded : l'.decoded = l.decoded)
    (hevicted : l'.evicted = l.evicted) : OnSchedule p capacity w' l' where
  task := hstream ▸ h.task
  script := by rw [hdecoded, hstream, h.script]
  capacity := hcapacity.trans h.capacity
  evicted := hevicted.trans h.evicted

omit [SessionCache σ] in
/-- While there is room for all events the queue gives up none. -/
theorem evicted_enterStream (h : OnSchedule p capacity w l) (hbalanced : l.Balanced w.inFlight)
    (hroom : (Stream.scriptEvents p.backoff p.connection).length ≤ max 1 capacity) :
    (w.enterStream l).evicted = [] := by
  unfold World.enterStream
  split
  case h_1 => exact h.evicted
  case h_2 e rest loss hphase =>
    -- The event that is pushed belongs to the script and is not in the queue yet.
    have hlength : l.decoded.length ≤ max 1 capacity := by
      rw [← h.script, List.length_append] at hroom
      exact Nat.le_of_add_right_le hroom
    have hfree : w.queue.items.length < w.queue.capacity := by
      rw [hbalanced.inOrder h.evicted, World.inFlight, hphase] at hlength
      simp only [List.length_append, Stream.Phase.held, List.length_singleton] at hlength
      rw [h.capacity]
      omega
    simp only [h.evicted, Queue.push_fst_eq_none hfree, Option.toList_none, List.append_nil]
  case h_3 => exact h.evicted

theorem step {a : Action}
    (hroom : (Stream.scriptEvents p.backoff p.connection).length ≤ max 1 capacity)
    (hleave : a ≠ .leave) (hstep : World.Step p w a w') (hbalanced : l.Balanced w.inFlight)
    (h : OnSchedule p capacity w l) : OnSchedule p capacity w' (w.enter p l a) := by
  cases hstep with
  | stream hstep =>
    refine ⟨Stream.Task.onScript_step hstep h.task, ?_, ?_, h.evicted_enterStream hbalanced hroom⟩
    · have hahead := Stream.Task.ahead_step hstep h.task
      have hscript := h.script
      rw [hahead, ← List.append_assoc, ← decoded_enterStream] at hscript
      exact hscript
    · exact (Stream.Task.capacity_of_step hstep).trans h.capacity
  | close houtcome =>
    rw [World.enter, World.enterStream_of_outcome houtcome]
    exact h.of_eq rfl rfl rfl rfl
  | leave _ => exact absurd rfl hleave
  | receive _ hreceive =>
    obtain ⟨-, -, hcapacity⟩ := Queue.items_of_receive_item hreceive
    exact h.of_eq rfl hcapacity World.decoded_enterBatcher World.evicted_enterBatcher
  | finish _ _ | call _ _ | crash _ _ | handOver _ _ | drain _ _ =>
    exact h.of_eq rfl rfl World.decoded_enterBatcher World.evicted_enterBatcher
  | save _ | giveUp _ _ => exact h.of_eq rfl rfl rfl rfl

/-- Once the last batch was flushed, the correlator was given the whole script. -/
theorem batched_eq (h : OnSchedule p capacity w l) (hc : Consistent p c w l)
    (hflushed : w.batcher.flushed) :
    l.batched = Stream.scriptEvents p.backoff p.connection := by
  obtain ⟨hclosed, -⟩ := hc.closing.drained (Batcher.sawEnd_of_flushed hflushed)
  have houtcome := hc.closing.ended hclosed
  have hdecoded := hc.balanced.inOrder h.evicted
  rw [hc.closing.inFlight_eq hflushed, List.append_nil] at hdecoded
  rw [← h.script, Stream.Task.ahead_of_outcome houtcome, List.append_nil, hdecoded]

theorem handed_prefix (h : OnSchedule p capacity w l) (hc : Consistent p c w l)
    (hcrashed : w.batcher ≠ .crashed) :
    w.handed <+: c.batches (Stream.scriptEvents p.backoff p.connection) := by
  refine (List.prefix_append _ w.batcher.offered).trans ?_
  rw [(hc.tracked hcrashed).handed, World.calls]
  split
  case isTrue hflushed =>
    rw [h.batched_eq hc hflushed]
    exact List.prefix_refl _
  case isFalse hflushed =>
    have hscript : Stream.scriptEvents p.backoff p.connection = l.batched ++
        (w.inFlight ++ w.stream.ahead p.backoff p.connection) := by
      rw [← h.script, hc.balanced.inOrder h.evicted, List.append_assoc]
    rw [Correlator.batches, hscript, List.map_append, List.append_assoc, List.append_nil]
    exact Correlator.run_prefix c .empty _ _

omit [SessionCache σ] in
private theorem isSome_stepStream? (h : OnSchedule p capacity w l)
    (hloss : ∀ n ≤ p.backoff.maxAttempts.toNat, (Stream.loss? (p.connection n)).isSome)
    (houtcome : w.stream.outcome? = none) : (w.stepStream? p).isSome := by
  rw [World.stepStream?, houtcome]
  simpa using Stream.Task.isSome_step? houtcome (h.task.not_held hloss)

/-- Where no connection is held open, a pipeline that cannot go on has come to its end. -/
theorem ended_of_stuck (h : OnSchedule p capacity w l) (hcrashed : w.batcher ≠ .crashed)
    (hloss : ∀ n ≤ p.backoff.maxAttempts.toNat, (Stream.loss? (p.connection n)).isSome)
    (hstuck : ∀ a, a ≠ .leave → w.step? p a = none) : w.batcher = .ended := by
  have hstream : w.stepStream? p = none := hstuck .stream nofun
  have hbatcher : w.stepBatcher? p = none := hstuck .batcher nofun
  have hclosed : w.queue.closed := by
    cases houtcome : w.stream.outcome? with
    | none =>
      have hstep := h.isSome_stepStream? hloss houtcome
      rw [hstream] at hstep
      contradiction
    | some outcome =>
      rw [World.stepStream?, houtcome] at hstream
      by_contra hopen
      simp [hopen] at hstream
  have hwrites : w.writes = [] := by
    cases hwrites : w.writes with
    | nil => rfl
    | cons write writes =>
      have hsave : w.stepSave? write.number .crashed = none := hstuck (.save _ _) nofun
      simp [World.stepSave?, hwrites] at hsave
  by_contra hended
  have hstep := World.isSome_stepBatcher? (p := p) hclosed hwrites hcrashed hended
  rw [hbatcher] at hstep
  contradiction

theorem of_follow? {cache : σ} {batchSize : Nat} {actions : List Action}
    (hroom : (Stream.scriptEvents p.backoff p.connection).length ≤ max 1 capacity)
    (hleave : .leave ∉ actions)
    (hrun : (ofCache cache capacity batchSize).world.follow? p actions = some w) :
    OnSchedule p capacity w
      ((ofCache cache capacity batchSize).world.ledger p .empty actions) := by
  refine (World.ledger_induction (motive := fun w l =>
    l.Balanced w.inFlight ∧ OnSchedule p capacity w l) (fun w l a w' ha hstep h => ?_) hrun
    ⟨.empty, .start ..⟩).2
  refine ⟨World.balanced_step hstep h.1, h.2.step hroom (fun hout => hleave ?_) hstep h.1⟩
  rw [← hout]
  exact ha

end OnSchedule

/-- A batch is handed over when its write begins, whatever becomes of it. The last part says that
every run gets to its end unless a connection is held open. -/
theorem handed_of_schedule (p : Plan) (hcache : p.brokenCache = false) (cache : σ)
    (capacity batchSize : Nat)
    (hroom : (Stream.scriptEvents p.backoff p.connection).length ≤ max 1 capacity)
    (actions : List Action) (hleave : .leave ∉ actions) {w : World σ}
    (hrun : (ofCache cache capacity batchSize).world.follow? p actions = some w) :
    let batches := (Correlator.ofCache cache batchSize).batches
      (Stream.scriptEvents p.backoff p.connection)
    w.handed <+: batches ∧ (w.batcher = .ended → w.handed = batches) ∧
      ((∀ n ≤ p.backoff.maxAttempts.toNat, (Stream.loss? (p.connection n)).isSome) →
        (∀ a, a ≠ .leave → w.step? p a = none) → w.batcher = .ended) := by
  have hc := Consistent.of_follow? hrun
  have h := OnSchedule.of_follow? hroom hleave hrun
  have hcrashed := hc.not_crashed hcache
  refine ⟨h.handed_prefix hc hcrashed, fun hended => ?_, h.ended_of_stuck hcrashed⟩
  rw [hc.handed_eq hended, h.batched_eq hc (by rw [hended]; rfl)]

/-- A connection that delivers four events, and one that fails. -/
def closedPlan : Plan where
  backoff := ⟨.zero, .zero, 1⟩
  connection n := if n = 0 then .response 200 fourEvents .complete else .failed
  maxWrites := 1
  brokenCache := false

/-- The batcher begins before the last event is pushed and goes on after the stream has ended. -/
def closedActions : List Action := [
  .stream, .stream, .stream, .stream, .stream, .batcher, .batcher, .batcher, .stream, .stream,
  .batcher, .batcher, .stream, .stream, .stream, .stream, .stream, .stream, .stream, .batcher,
  .batcher, .save 0 (.written 0 .zero), .batcher, .batcher, .batcher, .batcher, .batcher,
  .save 1 (.refused .zero), .batcher]

theorem handed_of_closedPlan :
    ∃ w, (ofCache (RecentSessions.ofCapacity 1) 4 2).world.follow? closedPlan closedActions =
        some w ∧ w.handed.length = 2 ∧
      w.handed = (Correlator.ofCache (RecentSessions.ofCapacity 1) 2).batches
        (Stream.scriptEvents closedPlan.backoff closedPlan.connection) := by
  have hroom :
      (Stream.scriptEvents closedPlan.backoff closedPlan.connection).length ≤ max 1 4 := by
    decide +kernel
  have hend :
      ((ofCache (RecentSessions.ofCapacity 1) 4 2).world.follow? closedPlan closedActions).any
        (fun w => w.result?.isSome && w.handed.length == 2) = true := by
    decide +kernel
  obtain ⟨w, hrun, hw⟩ := (Option.any_eq_true _ _).1 hend
  obtain ⟨hresult, hhanded⟩ := Bool.and_eq_true_iff.1 hw
  obtain ⟨r, hresult⟩ := Option.isSome_iff_exists.1 hresult
  have hcrashed := (Consistent.of_follow? hrun).not_crashed rfl
  have hended := World.ended_of_result? hresult hcrashed
  have hleave : .leave ∉ closedActions := by simp [closedActions]
  have hall := handed_of_schedule closedPlan rfl _ 4 2 hroom closedActions hleave hrun
  exact ⟨w, hrun, eq_of_beq hhanded, hall.2.1 hended⟩

end PlaybackRelay.Pipeline

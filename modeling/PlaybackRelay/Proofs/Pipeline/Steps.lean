import PlaybackRelay.Pipeline.Run
import PlaybackRelay.Proofs.Queue
import PlaybackRelay.Proofs.Session.Calls
import PlaybackRelay.Proofs.Stream.Steps

/-!
The steps of a pipeline, one by one, and its runs in any order of the tasks. Main statement:
`World.step_of_step?`.
-/
namespace PlaybackRelay.Pipeline

open Correlator (Call)

namespace Batcher

/-- The event that was received and not yet batched. -/
def held : Batcher → List Event
  | .holding e => [e]
  | _ => []

/-- The batch that waits for a write to begin. -/
def offered : Batcher → List (List Event)
  | .offering batch _ => [batch]
  | _ => []

/-- Whether the last batch was flushed. -/
def flushed : Batcher → Bool
  | .offering _ last => last
  | .draining | .ended => true
  | .receiving | .holding _ | .flushing | .crashed => false

/-- The call on the correlator that comes next. -/
def call? : Batcher → Option Call
  | .holding e => some (.push e)
  | .flushing => some .flush
  | _ => none

/-- What follows a call. -/
def afterCall : Call → Option (List Event) → Batcher
  | .push _, some batch => .offering batch false
  | .push _, none => .receiving
  | .flush, some batch => .offering batch true
  | .flush, none => .draining

@[simp] theorem offered_afterCall (x : Call) (batch : Option (List Event)) :
    (afterCall x batch).offered = batch.toList := by
  cases x <;> cases batch <;> rfl

@[simp] theorem held_afterCall (x : Call) (batch : Option (List Event)) :
    (afterCall x batch).held = [] := by
  cases x <;> cases batch <;> rfl

theorem afterCall_ne_ended (x : Call) (batch : Option (List Event)) :
    afterCall x batch ≠ .ended := by
  cases x <;> cases batch <;> nofun

theorem afterCall_ne_crashed (x : Call) (batch : Option (List Event)) :
    afterCall x batch ≠ .crashed := by
  cases x <;> cases batch <;> nofun

theorem held_of_call? {b : Batcher} {x : Call} (h : b.call? = some x) : b.held = x.pushed := by
  cases b with
  | holding e | flushing =>
    obtain rfl := Option.some.inj h
    rfl
  | _ => contradiction

end Batcher

namespace World

variable {σ : Type}

/-- The world after a call on the correlator. -/
def afterCall (w : World σ) (x : Call) (r : Option (List Event) × Correlator σ × Stats) : World σ :=
  { w.withStats r.2.2 with correlator := r.2.1, batcher := .afterCall x r.1 }

variable [SessionCache σ]

/-- What a step of a pipeline does. -/
inductive Step (p : Plan) (w : World σ) : Action → World σ → Prop
  | stream {stream : Stream.Task} {intake : Stream.Intake}
      (hstep : Stream.Task.Step p.backoff p.connection w.stream w.intake stream intake) :
    Step p w .stream { w with stream, intake }
  | close {outcome : Stream.Outcome} (houtcome : w.stream.outcome? = some outcome) :
    Step p w .stream (w.withQueue w.queue.close)
  | leave (hwait : w.stream.phase.mayWait) : Step p w .leave { w with stream := w.stream.leave }
  | receive {e : Event} {queue : Queue Event} (hbatcher : w.batcher = .receiving)
      (hreceive : w.queue.receive = (.item e, queue)) :
    Step p w .batcher { w.withQueue queue with batcher := .holding e }
  | finish {queue : Queue Event} (hbatcher : w.batcher = .receiving)
      (hreceive : w.queue.receive = (.ended, queue)) :
    Step p w .batcher { w with batcher := .flushing }
  | call {x : Call} (hbatcher : w.batcher.call? = some x)
      (hcache : p.brokenCache → w.correlator.dropped x = []) :
    Step p w .batcher (w.afterCall x (w.correlator.call w.stats x))
  | crash {x : Call} (hbatcher : w.batcher.call? = some x) (hcache : p.brokenCache) :
    Step p w .batcher ((w.withStats (x.record w.stats)).endBatcher .crashed)
  | handOver {batch : List Event} {last : Bool} (hbatcher : w.batcher = .offering batch last)
      (hlimit : w.writes.length < p.writeLimit) :
    Step p w .batcher
      { w.beginWrite batch with batcher := if last then .draining else .receiving }
  | drain (hbatcher : w.batcher = .draining) (hwrites : w.writes = []) :
    Step p w .batcher { w with batcher := .ended }
  | save {write : Write} {number : Nat} {ending : Ending}
      (hwrite : w.writes.find? (·.number = number) = some write) :
    Step p w (.save number ending)
      { w.withStats (ending.record write.batch.length w.stats) with
        writes := w.writes.filter (·.number ≠ number)
        done := w.done ++ [(write, some ending)] }
  | giveUp (hbatcher : w.batcher = .draining) (hwrites : w.writes ≠ []) :
    Step p w .giveUp (w.endBatcher .ended)

variable {p : Plan} {w w' : World σ}

private theorem step_of_stepStream? (h : w.stepStream? p = some w') : Step p w .stream w' := by
  unfold stepStream? at h
  split at h
  case h_1 outcome houtcome =>
    split at h
    · contradiction
    · obtain rfl := Option.some.inj h
      exact .close houtcome
  case h_2 =>
    obtain ⟨⟨stream, intake⟩, hstep, rfl⟩ := Option.map_eq_some_iff.1 h
    exact .stream (Stream.Task.step_of_step? hstep)

private theorem push_eq_afterCall {e : Event}
    (h : ¬ (p.brokenCache ∧ w.correlator.batchSize ≤ w.correlator.pending.length + 1)) :
    w.push p e = w.afterCall (.push e) (w.correlator.call w.stats (.push e)) := by
  rw [push, if_neg h, Correlator.call]
  rcases w.correlator.push w.stats e with ⟨_ | batch, correlator, stats⟩ <;> rfl

private theorem flush_eq_afterCall (h : ¬ (p.brokenCache ∧ w.correlator.pending ≠ [])) :
    w.flush p = w.afterCall .flush (w.correlator.call w.stats .flush) := by
  rw [flush, if_neg h, Correlator.call]
  rcases w.correlator.flush w.stats with ⟨_ | batch, correlator, stats⟩ <;> rfl

private theorem step_of_push {e : Event} (hbatcher : w.batcher = .holding e) :
    Step p w .batcher (w.push p e) := by
  have hcall : w.batcher.call? = some (.push e) := by rw [hbatcher]; rfl
  by_cases hcrash : p.brokenCache ∧ w.correlator.batchSize ≤ w.correlator.pending.length + 1
  · rw [push, if_pos hcrash]
    exact .crash hcall hcrash.1
  · rw [push_eq_afterCall hcrash]
    refine .call hcall fun hbroken => ?_
    have hdue : ¬ w.correlator.due (.push e) := by simpa [Correlator.due, hbroken] using hcrash
    rw [Correlator.dropped, if_neg hdue]

private theorem step_of_flush (hbatcher : w.batcher = .flushing) :
    Step p w .batcher (w.flush p) := by
  have hcall : w.batcher.call? = some .flush := by rw [hbatcher]; rfl
  by_cases hcrash : p.brokenCache ∧ w.correlator.pending ≠ []
  · rw [flush, if_pos hcrash]
    exact .crash hcall hcrash.1
  · rw [flush_eq_afterCall hcrash]
    refine .call hcall fun hbroken => Correlator.dropped_flush_of_nil ?_
    simpa [hbroken] using hcrash

private theorem step_of_stepBatcher? (h : w.stepBatcher? p = some w') : Step p w .batcher w' := by
  unfold stepBatcher? at h
  split at h
  case h_1 hbatcher =>
    split at h
    case h_1 e queue hreceive =>
      obtain rfl := Option.some.inj h
      exact .receive hbatcher hreceive
    case h_2 queue hreceive =>
      obtain rfl := Option.some.inj h
      exact .finish hbatcher hreceive
    case h_3 => contradiction
  case h_2 e hbatcher =>
    obtain rfl := Option.some.inj h
    exact step_of_push hbatcher
  case h_3 batch last hbatcher =>
    split at h
    case isTrue hlimit =>
      obtain rfl := Option.some.inj h
      exact .handOver hbatcher hlimit
    case isFalse => contradiction
  case h_4 hbatcher =>
    obtain rfl := Option.some.inj h
    exact step_of_flush hbatcher
  case h_5 hbatcher =>
    split at h
    case isTrue hwrites =>
      obtain rfl := Option.some.inj h
      exact .drain hbatcher (List.isEmpty_iff.1 hwrites)
    case isFalse => contradiction
  all_goals contradiction

theorem step_of_step? {a : Action} (h : w.step? p a = some w') : Step p w a w' := by
  cases a with
  | stream => exact step_of_stepStream? h
  | leave =>
    have h : w.stepLeave? = some w' := h
    unfold stepLeave? at h
    split at h
    case isTrue hwait =>
      obtain rfl := Option.some.inj h
      exact .leave hwait
    case isFalse => contradiction
  | batcher => exact step_of_stepBatcher? h
  | save number ending =>
    obtain ⟨write, hwrite, rfl⟩ := Option.map_eq_some_iff.1 h
    exact .save hwrite
  | giveUp =>
    have h : w.stepGiveUp? = some w' := h
    unfold stepGiveUp? at h
    split at h
    case h_1 hbatcher =>
      split at h
      case isTrue => contradiction
      case isFalse hwrites =>
        obtain rfl := Option.some.inj h
        exact .giveUp hbatcher (fun hnil => hwrites (List.isEmpty_iff.2 hnil))
    case h_2 => contradiction

/-- Takes some actions one after the other, if each can be taken at its time. -/
def follow? (p : Plan) (w : World σ) (actions : List Action) : Option (World σ) :=
  actions.foldlM (step? p) w

/-- The run that a pipeline takes is one of these. -/
theorem exists_follow?_run (p : Plan) (s : Surroundings) (w : World σ) :
    ∃ actions, w.follow? p actions = some (w.run p s) := by
  fun_induction run p s w with
  | case1 w next hnext ih =>
    obtain ⟨actions, hactions⟩ := ih
    obtain ⟨a, -, ha⟩ := List.exists_of_findSome?_eq_some hnext
    exact ⟨a :: actions, Option.bind_eq_some_iff.2 ⟨next, ha, hactions⟩⟩
  | case2 w hnone => exact ⟨[], rfl⟩

end World
end PlaybackRelay.Pipeline

import PlaybackRelay.Proofs.Event.Receive
import PlaybackRelay.Proofs.Pipeline.Steps

/-!
What becomes of the events of a run. A ledger records which events were decoded, which of them the
queue gave up, and which the correlator was given and dropped; all others are still on their way.
Main statement: `World.flow`.
-/
namespace PlaybackRelay.Pipeline

open Correlator (Call)

structure Ledger where
  decoded : List Event
  evicted : List Event
  batched : List Event
  unresolved : List Event

def Ledger.empty : Ledger := ⟨[], [], [], []⟩

namespace World

variable {σ : Type} [SessionCache σ]

omit [SessionCache σ] in
/-- What the next step of the stream adds to a ledger. -/
def enterStream (w : World σ) (l : Ledger) : Ledger :=
  match w.stream.phase with
  | .receiving (message :: _) _ =>
    { l with decoded := l.decoded ++ (Event.receive message).toOption.toList }
  | .pushing e _ _ => { l with evicted := l.evicted ++ (w.queue.push e).1.toList }
  | _ => l

/-- What the next step of the batcher adds to a ledger. A broken cache drops nothing, it crashes. -/
def enterBatcher (p : Plan) (w : World σ) (l : Ledger) : Ledger :=
  match w.batcher.call? with
  | some x =>
    { l with
      batched := l.batched ++ x.pushed
      unresolved := l.unresolved ++ if p.brokenCache then [] else w.correlator.dropped x }
  | none => l

def enter (p : Plan) (w : World σ) (l : Ledger) : Action → Ledger
  | .stream => w.enterStream l
  | .batcher => w.enterBatcher p l
  | .leave | .save .. | .giveUp => l

section

variable {p : Plan} {w : World σ} {l : Ledger}

omit [SessionCache σ] in
theorem enterStream_of_outcome {outcome : Stream.Outcome}
    (h : w.stream.outcome? = some outcome) : w.enterStream l = l := by
  cases hphase : w.stream.phase with
  | ended => rw [enterStream, hphase]
  | _ => simp [Stream.Task.outcome?, hphase] at h

omit [SessionCache σ] in
@[simp] theorem batched_enterStream : (w.enterStream l).batched = l.batched := by
  unfold enterStream
  split <;> rfl

omit [SessionCache σ] in
@[simp] theorem unresolved_enterStream : (w.enterStream l).unresolved = l.unresolved := by
  unfold enterStream
  split <;> rfl

theorem enterBatcher_of_call {x : Call} (h : w.batcher.call? = some x)
    (hcache : p.brokenCache → w.correlator.dropped x = []) :
    w.enterBatcher p l =
      { l with
        batched := l.batched ++ x.pushed
        unresolved := l.unresolved ++ w.correlator.dropped x } := by
  simp only [enterBatcher, h]
  split
  case isTrue hbroken => rw [hcache hbroken]
  case isFalse => rfl

theorem enterBatcher_of_crash {x : Call} (h : w.batcher.call? = some x) (hcache : p.brokenCache) :
    w.enterBatcher p l = { l with batched := l.batched ++ x.pushed } := by
  simp only [enterBatcher, h, if_pos hcache, List.append_nil]

theorem enterBatcher_of_none (h : w.batcher.call? = none) : w.enterBatcher p l = l := by
  rw [enterBatcher, h]

theorem decoded_enterBatcher : (w.enterBatcher p l).decoded = l.decoded := by
  unfold enterBatcher
  split <;> rfl

theorem evicted_enterBatcher : (w.enterBatcher p l).evicted = l.evicted := by
  unfold enterBatcher
  split <;> rfl

end

/-- The ledger of a run that goes on from some ledger. -/
def ledger (p : Plan) (w : World σ) (l : Ledger) : List Action → Ledger
  | [] => l
  | a :: actions =>
    match w.step? p a with
    | some w' => w'.ledger p (w.enter p l a) actions
    | none => l

/-- What every step preserves holds at the end of a run if it held at the start. -/
theorem ledger_induction {p : Plan} {motive : World σ → Ledger → Prop} {actions : List Action}
    (hstep : ∀ w l a w', a ∈ actions → Step p w a w' → motive w l → motive w' (w.enter p l a))
    {w w' : World σ} {l : Ledger} (hrun : w.follow? p actions = some w') (h : motive w l) :
    motive w' (w.ledger p l actions) := by
  induction actions generalizing w l with
  | nil =>
    obtain rfl := Option.some.inj hrun
    exact h
  | cons a actions ih =>
    obtain ⟨next, hnext, hrest⟩ := Option.bind_eq_some_iff.1 hrun
    rw [ledger, hnext]
    refine ih (fun w l a w' ha => hstep w l a w' (List.mem_cons_of_mem _ ha)) hrest ?_
    exact hstep w l a next List.mem_cons_self (step_of_step? hnext) h

/-- The events that have left the stream and have not reached the correlator, the first ones
first. -/
def inFlight (w : World σ) : List Event :=
  w.batcher.held ++ (w.queue.items ++ w.stream.phase.held)

end World

/-- Every event that was decoded was given up, batched, or is on its way. Where none was given up
all kept their order. -/
structure Ledger.Balanced (l : Ledger) (inFlight : List Event) : Prop where
  perm : l.decoded.Perm (l.evicted ++ (l.batched ++ inFlight))
  inOrder : l.evicted = [] → l.decoded = l.batched ++ inFlight
  fresh : ∀ e ∈ l.decoded, e.session = none

namespace Ledger.Balanced

variable {l : Ledger} {inFlight : List Event}

theorem empty : Ledger.empty.Balanced [] :=
  ⟨.nil, fun _ => rfl, fun _ he => absurd he List.not_mem_nil⟩

theorem decode (h : l.Balanced inFlight) {e : Event} (he : e.session = none) :
    { l with decoded := l.decoded ++ [e] : Ledger }.Balanced (inFlight ++ [e]) where
  perm := by simpa using h.perm.append_right [e]
  inOrder hnone := by simpa using congrArg (· ++ [e]) (h.inOrder hnone)
  fresh := by
    intro x hx
    rcases List.mem_append.1 hx with hx | hx
    · exact h.fresh x hx
    · rwa [List.mem_singleton.1 hx]

/-- An event goes through a queue, whose first event may have to go for it. -/
theorem push {front items items' out : List Event} {e : Event}
    (h : l.Balanced (front ++ (items ++ [e]))) (hitems : out ++ items' = items ++ [e]) :
    { l with evicted := l.evicted ++ out : Ledger }.Balanced (front ++ items') where
  perm := by
    have hmove : (l.batched ++ (front ++ (out ++ items'))).Perm
        (out ++ (l.batched ++ (front ++ items'))) := by
      simpa using (List.perm_append_comm : (l.batched ++ front ++ out).Perm _).append_right items'
    rw [← hitems] at h
    simpa using h.perm.trans (hmove.append_left l.evicted)
  inOrder hnone := by
    obtain ⟨hevicted, rfl⟩ := List.append_eq_nil_iff.1 hnone
    rw [← hitems] at h
    exact h.inOrder hevicted
  fresh := h.fresh

theorem batch {pushed dropped : List Event} (h : l.Balanced (pushed ++ inFlight)) :
    { l with
      batched := l.batched ++ pushed
      unresolved := l.unresolved ++ dropped : Ledger }.Balanced inFlight where
  perm := by simpa using h.perm
  inOrder hnone := by simpa using h.inOrder hnone
  fresh := h.fresh

end Ledger.Balanced

namespace World

variable {σ : Type} [SessionCache σ] {p : Plan} {w w' : World σ} {l : Ledger} {a : Action}

omit [SessionCache σ] in
private theorem balanced_stepStream {stream : Stream.Task} {intake : Stream.Intake}
    (hstep : Stream.Task.Step p.backoff p.connection w.stream w.intake stream intake)
    (h : l.Balanced w.inFlight) :
    (w.enterStream l).Balanced { w with stream, intake : World σ }.inFlight := by
  cases hstep with
  | connect hphase | retry hphase _ | exhaust hphase _ | reconnect hphase =>
    simpa [enterStream, inFlight, Stream.Phase.held, queue, hphase] using h
  | malformed hphase hmessage =>
    simpa [enterStream, inFlight, Stream.Phase.held, queue, hphase, hmessage, Except.toOption]
      using h
  | event hphase hmessage =>
    simpa [enterStream, inFlight, Stream.Phase.held, queue, hphase, hmessage, Except.toOption]
      using h.decode (Event.session_of_receive hmessage)
  | @push e rest loss hphase =>
    have hfront : l.Balanced (w.batcher.held ++ (w.queue.items ++ [e])) := by
      simpa [inFlight, Stream.Phase.held, hphase] using h
    simpa [enterStream, inFlight, Stream.Phase.held, queue, hphase]
      using hfront.push (w.queue.items_push e)

theorem balanced_step (hstep : Step p w a w') (h : l.Balanced w.inFlight) :
    (w.enter p l a).Balanced w'.inFlight := by
  cases hstep with
  | stream hstep => exact balanced_stepStream hstep h
  | close houtcome =>
    rw [enter, enterStream_of_outcome houtcome]
    exact h
  | leave hwait =>
    rw [inFlight, Stream.Phase.held_of_mayWait hwait] at h
    exact h
  | receive hbatcher hreceive =>
    obtain ⟨hitems, -, -⟩ := Queue.items_of_receive_item hreceive
    rw [inFlight, hbatcher, hitems] at h
    simpa [enter, enterBatcher, inFlight, hbatcher, Batcher.call?, Batcher.held, queue,
      withQueue] using h
  | call hbatcher _ =>
    rw [inFlight, Batcher.held_of_call? hbatcher] at h
    simpa [enter, enterBatcher, inFlight, hbatcher, queue, afterCall, withStats] using h.batch
  | crash hbatcher _ =>
    rw [inFlight, Batcher.held_of_call? hbatcher] at h
    simpa [enter, enterBatcher, inFlight, hbatcher, Batcher.held, queue, withStats,
      endBatcher] using h.batch
  | @handOver batch last hbatcher hlimit =>
    cases last <;>
      simpa [enter, enterBatcher, inFlight, hbatcher, Batcher.call?, Batcher.held, queue,
        beginWrite] using h
  | finish hbatcher _ | drain hbatcher _ =>
    simpa [enter, enterBatcher, inFlight, hbatcher, Batcher.call?, Batcher.held, queue] using h
  | save _ => exact h
  | giveUp hbatcher _ => simpa [enter, inFlight, hbatcher, Batcher.held, queue, endBatcher] using h

end World
end PlaybackRelay.Pipeline

import PlaybackRelay.Session.Correlator
import PlaybackRelay.Stream.Task

/-!
The tasks of a pipeline and the steps they take: the stream fills the queue, the batcher empties it
and hands batches over, and each batch is written by a task of its own. Main function:
`World.step?`.
-/
namespace PlaybackRelay.Pipeline

/-- What does not change while a pipeline runs. With a broken cache no event can be resolved. -/
structure Plan where
  backoff : Backoff
  connection : Nat → Network.Exchange
  maxWrites : Nat
  brokenCache : Bool

namespace Plan

/-- At least one batch may be in flight. -/
def writeLimit (p : Plan) : Nat := max 1 p.maxWrites

end Plan

/-- What the batcher does next: receive an event, push the one it holds, hand over a batch once a
write may begin, flush the last batch, or wait for the writes in flight. -/
inductive Batcher where
  | receiving
  | holding (e : Event)
  | offering (batch : List Event) (last : Bool)
  | flushing
  | draining
  | ended
  | crashed

/-- A batch with its number. -/
structure Write where
  number : Nat
  batch : List Event

/-- How a write ends: the store takes the batch but for some documents, the batch is not saved, or
the write crashes. -/
inductive Ending where
  | written (failed : Nat) (elapsed : Duration)
  | refused (elapsed : Duration)
  | crashed

/-- Counts a write of so many documents; one that crashed is not counted. -/
def Ending.record (size : Nat) (s : Stats) : Ending → Stats
  | .written failed elapsed => s.recordWrite size.toUInt64 failed.toUInt64 elapsed
  | .refused elapsed => s.recordWriteFailed elapsed
  | .crashed => s

/-- All tasks of a pipeline. All batches were handed over in the order of `handed`; `done` holds the
writes that are over, without an ending where they were given up. -/
structure World (σ : Type) where
  stream : Stream.Task
  intake : Stream.Intake
  correlator : Correlator σ
  batcher : Batcher
  handed : List (List Event)
  writes : List Write
  done : List (Write × Option Ending)

/-- Who takes the next step. Shutdown makes the stream leave, and a drain may be given up. -/
inductive Action where
  | stream
  | leave
  | batcher
  | save (number : Nat) (ending : Ending)
  | giveUp

namespace World

variable {σ : Type}

def start (queue : Queue Event) (stats : Stats) (correlator : Correlator σ) : World σ :=
  ⟨.start, ⟨queue, stats⟩, correlator, .receiving, [], [], []⟩

def stats (w : World σ) : Stats := w.intake.stats

def queue (w : World σ) : Queue Event := w.intake.queue

def withStats (w : World σ) (s : Stats) : World σ :=
  { w with intake := { w.intake with stats := s } }

def withQueue (w : World σ) (q : Queue Event) : World σ :=
  { w with intake := { w.intake with queue := q } }

/-- Once the stream has ended its queue is closed. -/
def stepStream? (p : Plan) (w : World σ) : Option (World σ) :=
  match w.stream.outcome? with
  | some _ => if w.queue.closed then none else some (w.withQueue w.queue.close)
  | none =>
    (w.stream.step? p.backoff p.connection w.intake).map
      fun (stream, intake) => { w with stream, intake }

def stepLeave? (w : World σ) : Option (World σ) :=
  if w.stream.phase.mayWait then some { w with stream := w.stream.leave } else none

/-- Writes in flight are given up with the batcher that began them. -/
def endBatcher (w : World σ) (batcher : Batcher) : World σ :=
  { w with batcher, writes := [], done := w.done ++ w.writes.map (·, none) }

def beginWrite (w : World σ) (batch : List Event) : World σ :=
  { w with
    handed := w.handed ++ [batch]
    writes := w.writes ++ [⟨w.handed.length, batch⟩] }

variable [SessionCache σ]

/-- Flushes the correlator. A batch that comes of it is offered, else the batcher goes on. -/
def flush (p : Plan) (w : World σ) : World σ :=
  if p.brokenCache ∧ w.correlator.pending ≠ [] then w.endBatcher .crashed
  else
    let (batch, correlator, stats) := w.correlator.flush w.stats
    let batcher := match batch with
      | some batch => .offering batch true
      | none => .draining
    { w.withStats stats with correlator, batcher }

def push (p : Plan) (w : World σ) (e : Event) : World σ :=
  if p.brokenCache ∧ w.correlator.batchSize ≤ w.correlator.pending.length + 1 then
    (w.withStats (w.stats.count .batched)).endBatcher .crashed
  else
    let (batch, correlator, stats) := w.correlator.push w.stats e
    let batcher := match batch with
      | some batch => .offering batch false
      | none => .receiving
    { w.withStats stats with correlator, batcher }

def stepBatcher? (p : Plan) (w : World σ) : Option (World σ) :=
  match w.batcher with
  | .receiving =>
    match w.queue.receive with
    | (.item e, queue) => some { w.withQueue queue with batcher := .holding e }
    | (.ended, _) => some { w with batcher := .flushing }
    | (.waiting, _) => none
  | .holding e => some (w.push p e)
  | .offering batch last =>
    if w.writes.length < p.writeLimit then
      some { w.beginWrite batch with batcher := if last then .draining else .receiving }
    else none
  | .flushing => some (w.flush p)
  | .draining => if w.writes.isEmpty then some { w with batcher := .ended } else none
  | .ended | .crashed => none

def stepSave? (number : Nat) (ending : Ending) (w : World σ) : Option (World σ) :=
  (w.writes.find? (·.number = number)).map fun write =>
    { w.withStats (ending.record write.batch.length w.stats) with
      writes := w.writes.filter (·.number ≠ number)
      done := w.done ++ [(write, some ending)] }

def stepGiveUp? (w : World σ) : Option (World σ) :=
  match w.batcher with
  | .draining => if w.writes.isEmpty then none else some (w.endBatcher .ended)
  | _ => none

/-- The step that an action takes, if it can be taken now. -/
def step? (p : Plan) (w : World σ) : Action → Option (World σ)
  | .stream => w.stepStream? p
  | .leave => w.stepLeave?
  | .batcher => w.stepBatcher? p
  | .save number ending => w.stepSave? number ending
  | .giveUp => w.stepGiveUp?

end World
end PlaybackRelay.Pipeline

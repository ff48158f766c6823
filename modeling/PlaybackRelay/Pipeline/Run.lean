import PlaybackRelay.Pipeline.Lifecycle
import PlaybackRelay.Pipeline.Parts
import PlaybackRelay.Pipeline.Progress

/-!
A pipeline and its run from the beginning to the end. Main functions: `Pipeline.run` and
`Pipeline.shutdown`.
-/
namespace PlaybackRelay

namespace Pipeline

/-- What a run depends on besides its plan: how each write ends, unless it never does, and when
shutdown is asked for. -/
structure Surroundings where
  save : Write → Option Ending
  stop : Stats → Bool

/-- Why a run failed. -/
inductive RunError where
  | alreadyStarted
  | stream (attempts : UInt32) (cause : Stream.Loss)
  | task

namespace World

variable {σ : Type} [SessionCache σ]

/-- The actions that may be taken next, the preferred one first: shutdown, then the batcher, then
the writes from the oldest on, and the stream when all else waits. Each body is one piece. -/
def actions (s : Surroundings) (w : World σ) : List Action :=
  (if w.stream.phase.isPaused && s.stop w.stats then [.leave] else []) ++
    .batcher :: w.writes.filterMap (fun write => (s.save write).map (.save write.number)) ++
    [.stream, .giveUp]

def next? (p : Plan) (s : Surroundings) (w : World σ) : Option (World σ) :=
  (w.actions s).findSome? (w.step? p)

private theorem left_next_lt {p : Plan} {s : Surroundings} {w w' : World σ}
    (h : w.next? p s = some w') : Less (w'.left p) (w.left p) := by
  obtain ⟨a, -, ha⟩ := List.exists_of_findSome?_eq_some h
  exact left_step_lt ha

/-- Takes steps until nothing is left to do. -/
def run (p : Plan) (s : Surroundings) (w : World σ) : World σ :=
  match _h : w.next? p s with
  | some w' => run p s w'
  | none => w
termination_by w.left p
decreasing_by exact left_next_lt _h

omit [SessionCache σ] in
/-- The batcher builds the permits for its writes before it receives anything. -/
def withPermits (p : Plan) (w : World σ) : World σ :=
  if (Part.permits p.writeLimit).fits then w else w.endBatcher .crashed

omit [SessionCache σ] in
/-- The result of a run whose tasks have all ended. A crash outweighs a lost stream. -/
def result? (w : World σ) : Option (Except RunError Snapshot) :=
  match w.stream.outcome?, w.batcher with
  | some _, .crashed => some (.error .task)
  | some .shutdown, .ended => some (.ok w.stats.counts)
  | some (.exhausted attempts cause), .ended => some (.error (.stream attempts cause))
  | _, _ => none

end World
end Pipeline

/-- A pipeline with the state of its life and its tasks. -/
structure Pipeline (σ : Type) where
  life : Lifecycle
  world : Pipeline.World σ

namespace Pipeline

variable {σ : Type}

def ofCache (cache : σ) (capacity batchSize : Nat) : Pipeline σ :=
  ⟨.start, .start (.ofCapacity capacity) .empty (.ofCache cache batchSize)⟩

/-- Runs the pipeline, unless it was run or stopped before. A run that never ends has no result. -/
def run [SessionCache σ] (p : Plan) (s : Surroundings) (pipeline : Pipeline σ) :
    Option (Except RunError Snapshot) × Pipeline σ :=
  match pipeline.life.begin with
  | (false, _) => (some (.error .alreadyStarted), pipeline)
  | (true, life) =>
    let world := (pipeline.world.withPermits p).run p s
    match world.result? with
    | none => (none, ⟨life, world⟩)
    | some result => (some result, ⟨life.drain.finishRun result.isOk, world⟩)

/-- Shuts down a pipeline that is not running. -/
def shutdown (pipeline : Pipeline σ) : Pipeline σ :=
  { pipeline with life := pipeline.life.stopIdle.2 }

end Pipeline
end PlaybackRelay

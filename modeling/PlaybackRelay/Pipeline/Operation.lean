import PlaybackRelay.Pipeline.Calls
import PlaybackRelay.Pipeline.Run

/-!
A pipeline in operation: calls that run it or shut it down, any number of them, together with the
tasks of the run that one of them began. Main function: `Operation.step?`.
-/
namespace PlaybackRelay

namespace Lifecycle

/-- What a call asks for. -/
inductive Request where
  | run
  | shutdown
deriving DecidableEq, Repr

def Request.call : Request → Call
  | .run => .run .called
  | .shutdown => .shutdown .called

/-- A run call that was not refused, once it has seen the state. -/
def RunCall.proceeded : RunCall → Bool
  | .streaming | .draining | .returned _ => true
  | .called | .refused => false

def Call.proceeded? : Call → Option RunCall
  | .run call => if call.proceeded then some call else none
  | .shutdown _ => none

namespace Calls

/-- The run calls that began a run. -/
def proceeded (s : Calls) : List RunCall := s.calls.filterMap Call.proceeded?

end Calls
end Lifecycle

namespace Pipeline

open Lifecycle (Call Calls Request)

/-- The stream task may crash; `cancelled` is what shutdown asks it to end by. -/
structure Operation (σ : Type) where
  calls : Calls
  world : World σ
  streamCrashed : Bool
  cancelled : Bool

/-- What happens next: the call at a place goes on, where `patient` says whether a shutdown has time
left to wait; a task takes a step; or a task crashes. -/
inductive Move where
  | call (place : Nat) (patient : Bool)
  | task (action : Action)
  | crashStream
  | crashBatcher

def Batcher.isOver : Batcher → Bool
  | .ended | .crashed => true
  | .receiving | .holding _ | .offering .. | .flushing | .draining => false

namespace Operation

variable {σ : Type}

def start (pipeline : Pipeline σ) (requests : List Request) : Operation σ :=
  ⟨⟨pipeline.life, requests.map Request.call⟩, pipeline.world, false, false⟩

/-- The tasks exist as soon as a call has begun a run. -/
def begun (o : Operation σ) : Bool := !o.calls.proceeded.isEmpty

/-- The stream task closes the queue before it is over, unless it crashes. -/
def streamOver (o : Operation σ) : Bool :=
  o.streamCrashed || (o.world.stream.outcome?.isSome && o.world.queue.closed)

/-- The result of the run, once both of its tasks are over. -/
def result? (o : Operation σ) : Option (Except RunError Snapshot) :=
  if o.streamCrashed then
    if o.world.batcher.isOver then some (.error .task) else none
  else if o.world.queue.closed then o.world.result?
  else none

/-- What a call finds out that goes on, unless it has to wait: a run waits for the stream to be
over, and then for the batcher. -/
def answer? (o : Operation σ) (patient : Bool) : Call → Option Bool
  | .run .streaming => if o.streamOver then some true else none
  | .run .draining => o.result?.map (·.isOk)
  | .run _ | .shutdown _ => some patient

/-- What a call does that goes on, besides changing the state. -/
def act (o : Operation σ) : Call → Operation σ
  | .run .streaming => { o with world := o.world.withQueue o.world.queue.close }
  | .shutdown .asking => { o with cancelled := true }
  | .run _ | .shutdown _ => o

def stepCall? (o : Operation σ) (place : Nat) (patient : Bool) : Option (Operation σ) := do
  let call ← o.calls.calls[place]?
  let answer ← o.answer? patient call
  let calls ← o.calls.step? place answer
  return { o.act call with calls }

/-- A crashed stream does nothing any more, and it leaves only when it is asked to. -/
def allows (o : Operation σ) : Action → Bool
  | .stream => !o.streamCrashed
  | .leave => !o.streamCrashed && o.cancelled
  | .batcher | .save .. | .giveUp => true

def stepTask? [SessionCache σ] (p : Plan) (o : Operation σ) (a : Action) : Option (Operation σ) :=
  if o.begun ∧ o.allows a then (o.world.step? p a).map fun world => { o with world } else none

def crashStream? (o : Operation σ) : Option (Operation σ) :=
  if o.begun ∧ ¬ o.streamOver then some { o with streamCrashed := true } else none

def crashBatcher? (o : Operation σ) : Option (Operation σ) :=
  if o.begun ∧ ¬ o.world.batcher.isOver then
    some { o with world := o.world.endBatcher .crashed }
  else none

/-- The next state after a move, if the move can be made now. -/
def step? [SessionCache σ] (p : Plan) (o : Operation σ) : Move → Option (Operation σ)
  | .call place patient => o.stepCall? place patient
  | .task action => o.stepTask? p action
  | .crashStream => o.crashStream?
  | .crashBatcher => o.crashBatcher?

/-- Makes some moves one after the other, if each can be made at its time. -/
def follow? [SessionCache σ] (p : Plan) (o : Operation σ) (moves : List Move) :
    Option (Operation σ) :=
  moves.foldlM (step? p) o

end Operation
end Pipeline
end PlaybackRelay

import PlaybackRelay.Pipeline.Lifecycle

/-!
Calls that run a pipeline or shut it down, any number of them at the same time. A call takes one
step for each of its operations on the state, and between them the others may take theirs.
-/
namespace PlaybackRelay.Lifecycle

/-- A call to run the pipeline: before it begins, refused, while its stream lasts, while its batches
are written, or back with its result. -/
inductive RunCall where
  | called
  | refused
  | streaming
  | draining
  | returned (clean : Bool)
deriving DecidableEq, Repr

/-- `clean` says how the tasks of the run have ended. -/
def RunCall.step? (l : Lifecycle) (clean : Bool) : RunCall → Option (RunCall × Lifecycle)
  | .called =>
    let (begun, l) := l.begin
    some (if begun then .streaming else .refused, l)
  | .streaming => some (.draining, l.drain)
  | .draining => some (.returned clean, l.finishRun clean)
  | .refused | .returned _ => none

/-- A call to shut the pipeline down: before it looks at the state, before it asks for a drain,
while it waits for the end, or back, in time or not. -/
inductive ShutdownCall where
  | called
  | asking
  | waiting
  | returned (inTime : Bool)
deriving DecidableEq, Repr

/-- `patient` says whether there is time left to wait. -/
def ShutdownCall.step? (l : Lifecycle) (patient : Bool) :
    ShutdownCall → Option (ShutdownCall × Lifecycle)
  | .called =>
    let (stopped, l) := l.stopIdle
    some (if stopped then .returned true else .asking, l)
  | .asking => some (.waiting, l.drain)
  | .waiting =>
    if l.state.isTerminal then some (.returned true, l)
    else if patient then none
    else some (.returned false, l)
  | .returned _ => none

inductive Call where
  | run (call : RunCall)
  | shutdown (call : ShutdownCall)
deriving DecidableEq, Repr

def Call.step? (l : Lifecycle) (choice : Bool) : Call → Option (Call × Lifecycle)
  | .run call => (call.step? l choice).map fun (call, l) => (.run call, l)
  | .shutdown call => (call.step? l choice).map fun (call, l) => (.shutdown call, l)

/-- A pipeline with the calls that were made on it. -/
structure Calls where
  life : Lifecycle
  calls : List Call

namespace Calls

def start (calls : List Call) : Calls := ⟨Lifecycle.start, calls⟩

/-- The call at a place takes its next step. -/
def step? (s : Calls) (place : Nat) (choice : Bool) : Option Calls := do
  let call ← s.calls[place]?
  let (call, life) ← call.step? s.life choice
  return ⟨life, s.calls.set place call⟩

end Calls
end PlaybackRelay.Lifecycle

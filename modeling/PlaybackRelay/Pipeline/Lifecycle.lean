/-!
The life of a pipeline, which runs at most once and drains before it ends. The state changes in two
ways only, `Lifecycle.move` and `Lifecycle.finish`.
-/
namespace PlaybackRelay

namespace Lifecycle

inductive State where
  | idle
  | running
  | draining
  | stopped
  | failed
deriving DecidableEq, Repr

def State.isTerminal : State → Bool
  | .stopped | .failed => true
  | .idle | .running | .draining => false

end Lifecycle

/-- The state with all that came before it, the latest last. -/
structure Lifecycle where
  earlier : List Lifecycle.State
  state : Lifecycle.State
deriving DecidableEq, Repr

namespace Lifecycle

def start : Lifecycle := ⟨[], .idle⟩

def states (l : Lifecycle) : List State := l.earlier ++ [l.state]

/-- The changes of state, each with what it led from and to. -/
def changes (l : Lifecycle) : List (State × State) := l.states.zip l.states.tail

/-- Ends in a state, whatever the state is now. -/
def finish (l : Lifecycle) (target : State) : Lifecycle := ⟨l.states, target⟩

/-- Changes from one state to another, if the state is still the first. -/
def move (l : Lifecycle) (source target : State) : Bool × Lifecycle :=
  if l.state = source then (true, l.finish target) else (false, l)

/-- Begins a run, unless there was one or there never will be. -/
def begin (l : Lifecycle) : Bool × Lifecycle := l.move .idle .running

def drain (l : Lifecycle) : Lifecycle := (l.move .running .draining).2

/-- Ends a run; it is clean if all of its tasks ended well. -/
def finishRun (l : Lifecycle) (clean : Bool) : Lifecycle :=
  l.finish (if clean then .stopped else .failed)

/-- Stops a pipeline that has not run, for good. -/
def stopIdle (l : Lifecycle) : Bool × Lifecycle := l.move .idle .stopped

end Lifecycle
end PlaybackRelay

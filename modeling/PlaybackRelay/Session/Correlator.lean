import PlaybackRelay.Session.Cache
import PlaybackRelay.Stats.Basic

/-!
Batches of events, each with the payload of the event that started its session.
-/
namespace PlaybackRelay

/-- The events of the current batch stand in the order of their arrival. -/
structure Correlator (σ : Type) where
  cache : σ
  batchSize : Nat
  pending : List Event

namespace Correlator

variable {σ : Type}

/-- A batch has at least one event. -/
def ofCache (cache : σ) (batchSize : Nat) : Correlator σ := ⟨cache, max 1 batchSize, []⟩

/-- The event that starts a session gives its payload away to the session. -/
def ofStart (e : Event) : Event := { e with data := [], session := some e.data }

variable [SessionCache σ]

def putStart (cache : σ) (e : Event) : σ := SessionCache.put e.sessionId e.data cache

/-- Attaches the sessions that are known; the other events are dropped. -/
def attach : List Event → σ → Stats → List Event × σ × Stats
  | [], cache, stats => ([], cache, stats)
  | e :: rest, cache, stats =>
    match SessionCache.get e.sessionId cache with
    | (some session, cache) =>
      let (events, cache, stats) := attach rest cache (stats.count .cacheHits)
      ({ e with session := some session } :: events, cache, stats)
    | (none, cache) => attach rest cache (stats.count .unresolved)

/-- The events that start a session come first and are known to all others of the batch. -/
def resolve (events : List Event) (cache : σ) (stats : Stats) : List Event × σ × Stats :=
  let starts := events.filter Event.isStart
  let others := events.filter (!·.isStart)
  let (attached, cache, stats) := attach others (starts.foldl putStart cache) stats
  (starts.map ofStart ++ attached, cache, stats)

/-- Ends the current batch. A batch that is left empty is none. -/
def flush (c : Correlator σ) (stats : Stats) : Option (List Event) × Correlator σ × Stats :=
  let (events, cache, stats) := resolve c.pending c.cache stats
  (if events.isEmpty then none else some events, { c with cache, pending := [] }, stats)

/-- Adds an event, which may complete the current batch. -/
def push (c : Correlator σ) (stats : Stats) (e : Event) :
    Option (List Event) × Correlator σ × Stats :=
  let c := { c with pending := c.pending ++ [e] }
  let stats := stats.count .batched
  if c.batchSize ≤ c.pending.length then c.flush stats else (none, c, stats)

end Correlator
end PlaybackRelay

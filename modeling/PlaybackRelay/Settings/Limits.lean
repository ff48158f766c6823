import PlaybackRelay.Pipeline.Parts
import PlaybackRelay.Settings.Basic

/-!
The parts that a relay is built of. Each setting may be valid by itself and still ask for a part
that cannot be built. Main function: `Settings.parts`.
-/
namespace PlaybackRelay.Settings

/-- Without idle seconds the sessions are kept in a table, unless there is no room for any. -/
def cachePart? (s : Settings) : Option Part :=
  match s.cacheIdleSeconds with
  | some seconds => some (.idleClock seconds.toNat)
  | none => if s.cacheSize = 0 then none else some (.sessions s.cacheSize.toNat)

/-- The parts that are built before any task starts: the cache, the queue and the first batch. Not
all room in the queue and the batch is taken at once. -/
def ownParts (s : Settings) : List Part :=
  s.cachePart?.toList ++
    [.events (min s.bufferCapacity.toNat 4096), .events (min (max 1 s.batchSize.toNat) 8192)]

/-- The parts that tasks build for themselves, the batcher first and then the reporter. -/
def taskParts (s : Settings) : List Part :=
  [.permits (max 1 s.maxWrites.toNat), .ticker s.statsInterval]

def parts (s : Settings) : List Part := s.ownParts ++ s.taskParts

end PlaybackRelay.Settings

import PlaybackRelay.Stats.Basic

/-!
The report that is logged once in every interval. The clock starts at zero, and each multiple of the
interval is a tick, however far the clock advances at once.
-/
namespace PlaybackRelay

/-- What was counted in an interval, and how long its writes took on average. -/
structure Report where
  counts : Snapshot
  averageWrite : Option Duration
  interval : Duration

namespace Report

/-- The counters that are logged. -/
def counters : List Counter := [
  .incoming, .malformed, .evicted, .unresolved, .persisted, .documentFailures, .batchesWritten,
  .batchesFailed, .streamRetries]

/-- What is logged: times are whole milliseconds and whole seconds, and there is no average of no
writes. -/
def fields (r : Report) : List (String × Option Nat) :=
  counters.map (fun c => (c.name, some (r.counts.get c).toNat)) ++
    [("average_write_ms", r.averageWrite.map Duration.millis),
      ("interval_secs", some r.interval.seconds)]

end Report

/-- A reporter with the time, the number of ticks so far, and the counts at the last one. -/
structure Reporter where
  interval : Duration
  nanos : Nat
  ticks : Nat
  previous : Snapshot
  running : Bool

namespace Reporter

/-- An interval of no length cannot be reported on. -/
def start (interval : Duration) (s : Stats) : Reporter :=
  ⟨interval, 0, 0, s.counts, !interval.isZero⟩

def tick (r : Reporter) (s : Stats) : Report × Reporter × Stats :=
  let (averageWrite, next) := s.takeAverageLatency
  (⟨s.counts.since r.previous, averageWrite, r.interval⟩,
    { r with ticks := r.ticks + 1, previous := s.counts }, next)

def runTicks : Nat → Reporter → Stats → List Report × Reporter × Stats
  | 0, r, s => ([], r, s)
  | n + 1, r, s =>
    let (report, r, s) := r.tick s
    let (reports, r, s) := runTicks n r s
    (report :: reports, r, s)

def advance (r : Reporter) (nanos : Nat) (s : Stats) : List Report × Reporter × Stats :=
  let r := { r with nanos := r.nanos + nanos }
  if r.running then runTicks (r.nanos / r.interval.toNanos - r.ticks) r s else ([], r, s)

def shutdown (r : Reporter) : Reporter := { r with running := false }

end Reporter
end PlaybackRelay

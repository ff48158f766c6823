import PlaybackRelay.Duration
import PlaybackRelay.Metrics.Basic
import PlaybackRelay.Stats.Counter

/-!
What a relay counts and measures. Everything that is counted is exported under the same name.
-/
namespace PlaybackRelay

/-- The time that writes took since the average was last asked for. -/
structure LatencyWindow where
  total : Duration
  samples : Nat
deriving DecidableEq, Repr

namespace LatencyWindow

def empty : LatencyWindow := ⟨.zero, 0⟩

/-- A write whose time does not fit the total any more is left out. -/
def add (w : LatencyWindow) (elapsed : Duration) : LatencyWindow :=
  match w.total.add? elapsed with
  | some total => ⟨total, w.samples + 1⟩
  | none => w

def average? (w : LatencyWindow) : Option Duration :=
  if w.samples = 0 then none else some (w.total.div w.samples)

end LatencyWindow

structure Stats where
  counts : Snapshot
  latency : LatencyWindow
  metrics : Metrics

namespace Stats

def empty : Stats := ⟨.zero, .empty, []⟩

def batchSizes : Histogram where
  name := "telemetry_batch_size"
  bounds := [("1", 1), ("5", 5), ("10", 10), ("50", 50), ("100", 100), ("250", 250), ("500", 500),
    ("1000", 1000), ("2000", 2000), ("5000", 5000), ("10000", 10000)]

/-- The values are nanoseconds and the labels seconds. -/
def writeDurations : Histogram where
  name := "telemetry_bulk_write_duration_seconds"
  bounds := [("0.005", 5 * nanosPerMilli), ("0.01", 10 * nanosPerMilli),
    ("0.025", 25 * nanosPerMilli), ("0.05", 50 * nanosPerMilli), ("0.1", 100 * nanosPerMilli),
    ("0.25", 250 * nanosPerMilli), ("0.5", 500 * nanosPerMilli), ("1", nanosPerSecond),
    ("2.5", 2500 * nanosPerMilli), ("5", 5 * nanosPerSecond), ("10", 10 * nanosPerSecond),
    ("30", 30 * nanosPerSecond)]

def add (s : Stats) (c : Counter) (n : UInt64) : Stats :=
  { s with counts := s.counts.add c n, metrics := s.metrics.increase c.series n.toNat }

def count (s : Stats) (c : Counter) : Stats := s.add c 1

def recordLatency (s : Stats) (elapsed : Duration) : Stats :=
  { s with
    latency := s.latency.add elapsed
    metrics := writeDurations.observe elapsed.toNanos s.metrics }

/-- A batch of `sent` documents was written, `failed` of which the store refused. -/
def recordWrite (s : Stats) (sent failed : UInt64) (elapsed : Duration) : Stats :=
  let s := ((s.add .persisted sent).add .documentFailures failed).count .batchesWritten
  { s with metrics := batchSizes.observe sent.toNat s.metrics }.recordLatency elapsed

def recordWriteFailed (s : Stats) (elapsed : Duration) : Stats :=
  (s.count .batchesFailed).recordLatency elapsed

/-- The average since the last call, and a new window. -/
def takeAverageLatency (s : Stats) : Option Duration × Stats :=
  (s.latency.average?, { s with latency := .empty })

end Stats
end PlaybackRelay

/-!
The counters of a relay, and snapshots of them.
-/
namespace PlaybackRelay

inductive Counter where
  | incoming
  | malformed
  | evicted
  | batched
  | cacheHits
  | unresolved
  | persisted
  | documentFailures
  | batchesWritten
  | batchesFailed
  | streamRetries
deriving DecidableEq, Repr

namespace Counter

def all : List Counter := [
  .incoming, .malformed, .evicted, .batched, .cacheHits, .unresolved, .persisted,
  .documentFailures, .batchesWritten, .batchesFailed, .streamRetries]

/-- The name of a counter in snapshots and in what is logged. -/
def name : Counter → String
  | .incoming => "incoming"
  | .malformed => "malformed"
  | .evicted => "evicted"
  | .batched => "batched"
  | .cacheHits => "cache_hits"
  | .unresolved => "unresolved"
  | .persisted => "persisted"
  | .documentFailures => "document_failures"
  | .batchesWritten => "batches_written"
  | .batchesFailed => "batches_failed"
  | .streamRetries => "stream_retries"

/-- The series under which a counter is exported. -/
def series : Counter → String
  | .incoming => "telemetry_events_incoming_total"
  | .malformed => "telemetry_events_malformed_total"
  | .evicted => "telemetry_events_evicted_total"
  | .batched => "telemetry_events_batched_total"
  | .cacheHits => "telemetry_session_cache_hits_total"
  | .unresolved => "telemetry_events_unresolved_total"
  | .persisted => "telemetry_events_persisted_total"
  | .documentFailures => "telemetry_document_failures_total"
  | .batchesWritten => "telemetry_batches_written_total"
  | .batchesFailed => "telemetry_batches_failed_total"
  | .streamRetries => "telemetry_stream_retries_total"

end Counter

structure Snapshot where
  incoming : UInt64
  malformed : UInt64
  evicted : UInt64
  batched : UInt64
  cacheHits : UInt64
  unresolved : UInt64
  persisted : UInt64
  documentFailures : UInt64
  batchesWritten : UInt64
  batchesFailed : UInt64
  streamRetries : UInt64
deriving DecidableEq, Repr

namespace Snapshot

def ofFn (f : Counter → UInt64) : Snapshot where
  incoming := f .incoming
  malformed := f .malformed
  evicted := f .evicted
  batched := f .batched
  cacheHits := f .cacheHits
  unresolved := f .unresolved
  persisted := f .persisted
  documentFailures := f .documentFailures
  batchesWritten := f .batchesWritten
  batchesFailed := f .batchesFailed
  streamRetries := f .streamRetries

def get (s : Snapshot) : Counter → UInt64
  | .incoming => s.incoming
  | .malformed => s.malformed
  | .evicted => s.evicted
  | .batched => s.batched
  | .cacheHits => s.cacheHits
  | .unresolved => s.unresolved
  | .persisted => s.persisted
  | .documentFailures => s.documentFailures
  | .batchesWritten => s.batchesWritten
  | .batchesFailed => s.batchesFailed
  | .streamRetries => s.streamRetries

@[simp] theorem get_ofFn (f : Counter → UInt64) (c : Counter) : (ofFn f).get c = f c := by
  cases c <;> rfl

def zero : Snapshot := ofFn fun _ => 0

/-- Counters wrap around. -/
def add (s : Snapshot) (c : Counter) (n : UInt64) : Snapshot :=
  ofFn fun d => if d = c then s.get d + n else s.get d

/-- What was counted since an earlier snapshot; nothing where the other one is ahead. -/
def since (s previous : Snapshot) : Snapshot :=
  ofFn fun c => if previous.get c ≤ s.get c then s.get c - previous.get c else 0

end Snapshot
end PlaybackRelay

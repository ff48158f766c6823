import PlaybackRelay.Stats.Basic

/-! How each way of recording changes a counter. Counters wrap around, as their sums here do. -/
namespace PlaybackRelay.Stats

@[simp] theorem get_counts_add (s : Stats) (c d : Counter) (n : UInt64) :
    (s.add c n).counts.get d = if d = c then s.counts.get d + n else s.counts.get d := by
  simp [add, Snapshot.add]

@[simp] theorem get_counts_count (s : Stats) (c d : Counter) :
    (s.count c).counts.get d = if d = c then s.counts.get d + 1 else s.counts.get d :=
  get_counts_add s c d 1

@[simp] theorem counts_recordLatency (s : Stats) (elapsed : Duration) :
    (s.recordLatency elapsed).counts = s.counts := rfl

theorem get_counts_recordWrite (s : Stats) (sent failed : UInt64) (elapsed : Duration)
    (d : Counter) : (s.recordWrite sent failed elapsed).counts.get d =
      (((s.add .persisted sent).add .documentFailures failed).count .batchesWritten).counts.get d :=
  rfl

@[simp] theorem get_counts_empty (d : Counter) : empty.counts.get d = 0 := by
  simp [empty, Snapshot.zero]

end PlaybackRelay.Stats

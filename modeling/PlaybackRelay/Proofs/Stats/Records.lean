import Mathlib
import PlaybackRelay.Proofs.Metrics.Series
import PlaybackRelay.Proofs.Stats.Counts

/-!
Counters, snapshots and exported metrics agree: whatever is recorded, in whatever order, a counter
holds the number of its own records, and its series has grown by as much. Main statement:
`agree_recordAll`.
-/
namespace PlaybackRelay

namespace Snapshot

/-- What a counter is ahead by, in whole numbers. -/
theorem toNat_get_since (s previous : Snapshot) (c : Counter) :
    ((s.since previous).get c).toNat = (s.get c).toNat - (previous.get c).toNat := by
  rw [since, get_ofFn]
  split
  case isTrue hle => exact UInt64.toNat_sub_of_le _ _ hle
  case isFalse hlt =>
    have hlt : (s.get c).toNat < (previous.get c).toNat :=
      UInt64.lt_iff_toNat_lt.1 (UInt64.not_le.1 hlt)
    exact (Nat.sub_eq_zero_of_le (Nat.le_of_lt hlt)).symm

theorem ext_get {s t : Snapshot} (h : ∀ c, s.get c = t.get c) : s = t := by
  cases s
  cases t
  simp only [mk.injEq]
  exact ⟨h .incoming, h .malformed, h .evicted, h .batched, h .cacheHits, h .unresolved,
    h .persisted, h .documentFailures, h .batchesWritten, h .batchesFailed, h .streamRetries⟩

end Snapshot

namespace Counter

theorem series_inj {c d : Counter} : c.series = d.series ↔ c = d := by
  have hnodup : (all.map series).Nodup := by decide
  have hall : ∀ c : Counter, c ∈ all := by
    intro c
    cases c <;> decide
  exact ⟨List.inj_on_of_nodup_map hnodup (hall c) (hall d), congrArg series⟩

/-- No counter is exported as a part of a histogram. -/
theorem not_prefix_series (c : Counter) :
    ¬ Stats.batchSizes.name.toList <+: c.series.toList ∧
      ¬ Stats.writeDurations.name.toList <+: c.series.toList := by
  cases c <;> decide

end Counter

namespace Stats

/-- What is counted one at a time. -/
inductive Occurrence where
  | incoming
  | malformed
  | evicted
  | batched
  | cacheHit
  | unresolved
  | streamRetry
deriving DecidableEq, Repr

def Occurrence.counter : Occurrence → Counter
  | .incoming => .incoming
  | .malformed => .malformed
  | .evicted => .evicted
  | .batched => .batched
  | .cacheHit => .cacheHits
  | .unresolved => .unresolved
  | .streamRetry => .streamRetries

/-- All that is ever recorded. -/
inductive Record where
  | occurred (what : Occurrence)
  | written (sent failed : UInt64) (elapsed : Duration)
  | notWritten (elapsed : Duration)
deriving DecidableEq, Repr

def record (s : Stats) : Record → Stats
  | .occurred what => s.count what.counter
  | .written sent failed elapsed => s.recordWrite sent failed elapsed
  | .notWritten elapsed => s.recordWriteFailed elapsed

def recordAll (s : Stats) (records : List Record) : Stats := records.foldl record s

namespace Record

/-- What a record stands for in a counter: one, or the number of its documents. -/
def adds : Record → Counter → Nat
  | .occurred what, c => if what.counter = c then 1 else 0
  | .written sent _ _, .persisted => sent.toNat
  | .written _ failed _, .documentFailures => failed.toNat
  | .written .., .batchesWritten => 1
  | .notWritten _, .batchesFailed => 1
  | .written .., _ | .notWritten _, _ => 0

/-- A batch of so many documents at most was written. -/
def isWrittenUpTo (bound : Nat) : Record → Bool
  | .written sent _ _ => sent.toNat ≤ bound
  | .occurred _ | .notWritten _ => false

/-- What a record adds to a series. -/
def exports : Record → String → Nat
  | .occurred what, name => if name = what.counter.series then 1 else 0
  | .written sent failed elapsed, name =>
    (if name = Counter.persisted.series then sent.toNat else 0) +
      (if name = Counter.documentFailures.series then failed.toNat else 0) +
      (if name = Counter.batchesWritten.series then 1 else 0) +
      (batchSizes.series sent.toNat).count name + (writeDurations.series elapsed.toNanos).count name
  | .notWritten elapsed, name =>
    (if name = Counter.batchesFailed.series then 1 else 0) +
      (writeDurations.series elapsed.toNanos).count name

end Record

theorem get_counts_record (s : Stats) (r : Record) (c : Counter) :
    (s.record r).counts.get c = s.counts.get c + UInt64.ofNat (r.adds c) := by
  cases r with
  | occurred what =>
    rw [record, get_counts_count, Record.adds]
    cases what <;> cases c <;> simp [Occurrence.counter]
  | written sent failed elapsed =>
    rw [record, get_counts_recordWrite]
    cases c <;> simp [Record.adds]
  | notWritten elapsed =>
    rw [record, recordWriteFailed]
    cases c <;> simp [Record.adds]

theorem value_record (s : Stats) (r : Record) (name : String) :
    (s.record r).metrics.value name = s.metrics.value name + r.exports name := by
  cases r with
  | occurred what => exact Metrics.value_increase name _ _ _
  | written sent failed elapsed =>
    simp only [record, recordWrite, recordLatency, count, add, Histogram.value_observe,
      Metrics.value_increase, Record.exports, Nat.add_assoc]
    rfl
  | notWritten elapsed =>
    simp only [record, recordWriteFailed, recordLatency, count, add, Histogram.value_observe,
      Metrics.value_increase, Record.exports, Nat.add_assoc]
    rfl

/-- What some records stand for in a counter. -/
def total (c : Counter) (records : List Record) : Nat := (records.map (·.adds c)).sum

theorem total_cons (c : Counter) (r : Record) (records : List Record) :
    total c (r :: records) = r.adds c + total c records := rfl

theorem total_append (c : Counter) (first second : List Record) :
    total c (first ++ second) = total c first + total c second := by
  rw [total, List.map_append, List.sum_append]
  rfl

/-- What was recorded first is a part of all that was. -/
theorem total_take_le (c : Counter) (records : List Record) {n k : Nat} (h : n ≤ k) :
    total c (records.take n) ≤ total c (records.take k) := by
  have hsplit : records.take n ++ (records.take k).drop n = records.take k := by
    have htake : (records.take k).take n = records.take n := by
      rw [List.take_take, Nat.min_eq_left h]
    rw [← htake, List.take_append_drop]
  rw [← hsplit, total_append]
  exact Nat.le_add_right _ _

theorem get_counts_recordAll (s : Stats) (records : List Record) (c : Counter) :
    (s.recordAll records).counts.get c = s.counts.get c + UInt64.ofNat (total c records) := by
  induction records generalizing s with
  | nil => exact (UInt64.add_zero _).symm
  | cons r records ih =>
    have hrest : (s.recordAll (r :: records)).counts.get c =
        (s.record r).counts.get c + UInt64.ofNat (total c records) := ih (s.record r)
    rw [hrest, get_counts_record, total_cons, UInt64.ofNat_add, UInt64.add_assoc]

theorem value_recordAll (s : Stats) (records : List Record) (name : String) :
    (s.recordAll records).metrics.value name =
      s.metrics.value name + (records.map (·.exports name)).sum := by
  induction records generalizing s with
  | nil => rfl
  | cons r records ih =>
    have hrest : (s.recordAll (r :: records)).metrics.value name =
        (s.record r).metrics.value name + (records.map (·.exports name)).sum := ih (s.record r)
    rw [hrest, value_record, List.map_cons, List.sum_cons, Nat.add_assoc]

theorem labelled_batchSizes : batchSizes.Labelled := ⟨by decide, by decide⟩

namespace Record

/-- The series of a counter grows by what the counter does. -/
theorem exports_series (r : Record) (c : Counter) : r.exports c.series = r.adds c := by
  have hsizes (v : Nat) : (batchSizes.series v).count c.series = 0 :=
    List.count_eq_zero_of_not_mem (Histogram.not_mem_series c.not_prefix_series.1 v)
  have hdurations (v : Nat) : (writeDurations.series v).count c.series = 0 :=
    List.count_eq_zero_of_not_mem (Histogram.not_mem_series c.not_prefix_series.2 v)
  cases r with
  | occurred what => simp only [exports, adds, Counter.series_inj, eq_comm]
  | written sent failed elapsed =>
    simp only [exports, Counter.series_inj, hsizes, hdurations]
    cases c <;> simp [adds]
  | notWritten elapsed =>
    simp only [exports, Counter.series_inj, hdurations]
    cases c <;> simp [adds]

/-- A series of a histogram is no counter's, and no other histogram's. -/
theorem exports_of_prefix_sizes (r : Record) {name : String}
    (hname : batchSizes.name.toList <+: name.toList) :
    r.exports name = match r with
      | .written sent _ _ => (batchSizes.series sent.toNat).count name
      | .occurred _ | .notWritten _ => 0 := by
  have hcounter (c : Counter) : name ≠ c.series := by
    rintro rfl
    exact c.not_prefix_series.1 hname
  have hdurations (v : Nat) : (writeDurations.series v).count name = 0 := by
    refine List.count_eq_zero_of_not_mem (Histogram.not_mem_series ?_ v)
    intro hother
    have hboth := List.prefix_or_prefix_of_prefix hname hother
    revert hboth
    decide
  cases r <;> simp [exports, hcounter, hdurations]

private theorem exports_count_batchSizes (r : Record) :
    r.exports batchSizes.count = r.adds .batchesWritten := by
  rw [exports_of_prefix_sizes r (by decide)]
  cases r with
  | occurred what => cases what <;> rfl
  | written sent failed elapsed => exact batchSizes.count_count _
  | notWritten elapsed => rfl

private theorem exports_bucket_batchSizes (r : Record) {bound : String × Nat}
    (hbound : bound ∈ batchSizes.bounds) :
    r.exports (batchSizes.bucket bound.1) = if r.isWrittenUpTo bound.2 then 1 else 0 := by
  have hname : batchSizes.name.toList <+: (batchSizes.bucket bound.1).toList := by
    rw [Histogram.toList_bucket]
    exact List.prefix_append _ _
  rw [exports_of_prefix_sizes r hname]
  cases r with
  | occurred what => rfl
  | written sent failed elapsed =>
    refine (Histogram.count_bucket labelled_batchSizes hbound sent.toNat).trans ?_
    simp only [isWrittenUpTo, decide_eq_true_eq]
  | notWritten elapsed => rfl

private theorem exports_count_writeDurations (r : Record) :
    r.exports writeDurations.count = r.adds .batchesWritten + r.adds .batchesFailed := by
  have hcounter (c : Counter) : writeDurations.count ≠ c.series := by
    cases c <;> decide
  have hsizes (v : Nat) : (batchSizes.series v).count writeDurations.count = 0 :=
    List.count_eq_zero_of_not_mem (Histogram.not_mem_series (by decide) v)
  cases r with
  | occurred what =>
    rw [exports, if_neg (hcounter _)]
    cases what <;> rfl
  | written sent failed elapsed | notWritten elapsed =>
    simp [exports, adds, hcounter, hsizes, Histogram.count_count]

end Record

/-- Nothing is counted yet, though others may have exported something before. -/
def fresh (m : Metrics) : Stats := { empty with metrics := m }

/-- What is counted and exported agrees with what was recorded. -/
structure Agree (m : Metrics) (records : List Record) (s : Stats) : Prop where
  counted : ∀ c, (s.counts.get c).toNat = total c records
  exported : ∀ c : Counter, s.metrics.value c.series = m.value c.series + total c records
  sizes : s.metrics.value batchSizes.count =
    m.value batchSizes.count + total .batchesWritten records
  buckets : ∀ bound ∈ batchSizes.bounds, s.metrics.value (batchSizes.bucket bound.1) =
    m.value (batchSizes.bucket bound.1) + records.countP (·.isWrittenUpTo bound.2)
  durations : s.metrics.value writeDurations.count =
    m.value writeDurations.count + (total .batchesWritten records + total .batchesFailed records)

private theorem agree_fresh (m : Metrics) {records : List Record}
    (hsum : ∀ c, total c records < UInt64.size) :
    Agree m records ((fresh m).recordAll records) where
  counted c := by
    rw [get_counts_recordAll]
    have hzero : (fresh m).counts.get c = 0 := get_counts_empty c
    rw [hzero, UInt64.zero_add, UInt64.toNat_ofNat_of_lt' (hsum c)]
  exported c := by
    rw [value_recordAll]
    simp only [Record.exports_series]
    rfl
  sizes := by
    rw [value_recordAll]
    simp only [Record.exports_count_batchSizes]
    rfl
  buckets bound hbound := by
    have hcount : (records.map (·.exports (batchSizes.bucket bound.1))).sum =
        records.countP (·.isWrittenUpTo bound.2) := by
      induction records with
      | nil => rfl
      | cons r records ih =>
        have hrest := ih fun c => Nat.lt_of_le_of_lt (Nat.le_add_left _ _) (hsum c)
        rw [List.map_cons, List.sum_cons, hrest, List.countP_cons,
          Record.exports_bucket_batchSizes r hbound, Nat.add_comm]
    rw [value_recordAll, hcount]
    rfl
  durations := by
    have hcount : (records.map (·.exports writeDurations.count)).sum =
        total .batchesWritten records + total .batchesFailed records := by
      simp only [Record.exports_count_writeDurations, total]
      exact List.sum_map_add
    rw [value_recordAll, hcount]
    rfl

/-- Nothing that was exported before is lost. After each record the counters hold what was recorded
since the start, and what snapshots taken one after the other differ by adds up. -/
theorem agree_recordAll (m : Metrics) (records : List Record)
    (hsum : ∀ c, total c records < UInt64.size) :
    (∀ n, Agree m (records.take n) ((fresh m).recordAll (records.take n))) ∧
      ∀ i j k, i ≤ j → j ≤ k → ∀ s₀ s₁ s₂ : Snapshot,
        s₀ = ((fresh m).recordAll (records.take i)).counts →
        s₁ = ((fresh m).recordAll (records.take j)).counts →
        s₂ = ((fresh m).recordAll (records.take k)).counts →
        (∀ c, ((s₁.since s₀).get c).toNat + ((s₂.since s₁).get c).toNat =
          ((s₂.since s₀).get c).toNat) ∧
        s₀.since s₁ = .zero := by
  have hall : ∀ n, Agree m (records.take n) ((fresh m).recordAll (records.take n)) := by
    intro n
    refine agree_fresh m fun c => Nat.lt_of_le_of_lt ?_ (hsum c)
    have hle := total_take_le c records (Nat.le_max_left n records.length)
    rwa [List.take_of_length_le (Nat.le_max_right n records.length)] at hle
  refine ⟨hall, ?_⟩
  rintro i j k hij hjk s₀ s₁ s₂ rfl rfl rfl
  have hfirst := fun c => total_take_le c records hij
  have hsecond := fun c => total_take_le c records hjk
  constructor
  · intro c
    specialize hfirst c
    specialize hsecond c
    simp only [Snapshot.toNat_get_since, (hall _).counted]
    omega
  · apply Snapshot.ext_get
    intro c
    apply UInt64.toNat_inj.1
    rw [Snapshot.toNat_get_since, (hall i).counted, (hall j).counted, Snapshot.zero,
      Snapshot.get_ofFn]
    exact Nat.sub_eq_zero_of_le (hfirst c)

/-- Two events, a batch of ten with two refused documents, and a write that failed. -/
def sampleRecords : List Record :=
  [.occurred .incoming, .written 10 2 (.ofMillis 5), .occurred .incoming,
    .notWritten (.ofMillis 40)]

theorem agree_sampleRecords :
    (∀ c, total c sampleRecords < UInt64.size) ∧
      total .incoming sampleRecords = 2 ∧ total .documentFailures sampleRecords = 2 ∧
      sampleRecords.countP (·.isWrittenUpTo 5) = 0 ∧
      sampleRecords.countP (·.isWrittenUpTo 10) = 1 ∧
      ∀ n, Agree [] (sampleRecords.take n) ((fresh []).recordAll (sampleRecords.take n)) := by
  have hsum : ∀ c, total c sampleRecords < UInt64.size := by
    intro c
    cases c <;> decide
  refine ⟨hsum, by decide, by decide, by decide, by decide, ?_⟩
  exact (agree_recordAll [] sampleRecords hsum).1

end Stats
end PlaybackRelay

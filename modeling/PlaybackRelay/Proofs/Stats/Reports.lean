import PlaybackRelay.Proofs.Duration
import PlaybackRelay.Proofs.Stats.Records
import PlaybackRelay.Stats.Report

/-!
What is logged of the records of a relay while the clock advances. A report is about the records
between two ticks, whichever way the clock passed them: the counts are taken from one snapshot to
the next, and the average from a window that is emptied at the same time. Main statements:
`Report.Describes.fields_eq` and `Reporter.reports_start`.
-/
namespace PlaybackRelay

namespace LatencyWindow

variable {w : LatencyWindow} {times : List Nat}

/-- The window is about writes that took so many nanoseconds each. -/
structure Holds (w : LatencyWindow) (times : List Nat) : Prop where
  total : w.total.toNanos = times.sum
  samples : w.samples = times.length

theorem holds_empty : empty.Holds [] := ⟨rfl, rfl⟩

theorem Holds.add (h : w.Holds times) {elapsed : Duration}
    (hfits : (times ++ [elapsed.toNanos]).sum < UInt64.size * nanosPerSecond) :
    (w.add elapsed).Holds (times ++ [elapsed.toNanos]) := by
  rw [List.sum_append, List.sum_singleton] at hfits
  have hsum := Duration.isSome_add? (a := w.total) (b := elapsed) (by rwa [h.total])
  obtain ⟨total, htotal⟩ := Option.isSome_iff_exists.1 hsum
  simp only [LatencyWindow.add, htotal]
  constructor
  · rw [Duration.toNanos_of_add? htotal, h.total, List.sum_append, List.sum_singleton]
  · rw [h.samples, List.length_append, List.length_singleton]

/-- The mean in whole milliseconds. -/
def meanMillis? (times : List Nat) : Option Nat :=
  if times = [] then none else some (times.sum / (times.length * nanosPerMilli))

/-- An average is logged as a number that wraps around. -/
theorem Holds.millis_average? (h : w.Holds times) :
    w.average?.map Duration.millis = (meanMillis? times).map (· % UInt64.size) := by
  unfold average? meanMillis?
  rw [h.samples]
  by_cases hempty : times = []
  · rw [if_pos hempty, hempty]
    rfl
  · rw [if_neg hempty, if_neg (mt List.length_eq_zero_iff.1 hempty), Option.map_some,
      Option.map_some, Duration.millis_eq, Duration.toNanos_div, h.total, Nat.div_div_eq_div_mul]

end LatencyWindow

namespace Stats

/-- How long a write took, whether or not it succeeded. -/
def Record.elapsed? : Record → Option Duration
  | .occurred _ => none
  | .written _ _ elapsed | .notWritten elapsed => some elapsed

/-- The nanoseconds of each write among some records. -/
def times (records : List Record) : List Nat :=
  records.filterMap fun r => r.elapsed?.map Duration.toNanos

/-- All the writes together took no longer than a duration can be. -/
def Fits (records : List Record) : Prop :=
  (times records).sum < UInt64.size * nanosPerSecond

instance (records : List Record) : Decidable (Fits records) :=
  inferInstanceAs (Decidable (_ < _))

theorem latency_record (s : Stats) (r : Record) :
    (s.record r).latency = r.elapsed?.elim s.latency s.latency.add := by
  cases r <;> rfl

theorem times_concat (records : List Record) (r : Record) : times (records ++ [r]) =
    times records ++ (r.elapsed?.map Duration.toNanos).toList := by
  rw [times, List.filterMap_append]
  cases r <;> rfl

theorem holds_record {s : Stats} {records : List Record} (r : Record)
    (h : Fits records → s.latency.Holds (times records)) (hfits : Fits (records ++ [r])) :
    (s.record r).latency.Holds (times (records ++ [r])) := by
  unfold Fits at hfits h
  rw [times_concat] at hfits ⊢
  rw [latency_record]
  cases helapsed : r.elapsed? with
  | none =>
    simp only [helapsed, Option.map_none, Option.toList_none, List.append_nil] at hfits ⊢
    exact h hfits
  | some elapsed =>
    simp only [helapsed, Option.map_some, Option.toList_some] at hfits ⊢
    refine (h (Nat.lt_of_le_of_lt ?_ hfits)).add hfits
    rw [List.sum_append]
    exact Nat.le_add_right _ _

/-- The statistics are ahead of a snapshot by some records, and measured just these. -/
structure Ahead (previous : Snapshot) (s : Stats) (records : List Record) : Prop where
  counts : ∀ c, (s.counts.get c).toNat = (previous.get c).toNat + total c records
  latency : Fits records → s.latency.Holds (times records)

theorem ahead_empty {s : Stats} (h : s.latency = .empty) : Ahead s.counts s [] :=
  ⟨fun _ => rfl, fun _ => h ▸ LatencyWindow.holds_empty⟩

theorem total_singleton (c : Counter) (r : Record) : total c [r] = r.adds c := Nat.add_zero _

/-- What a counter holds after a record that it has room for. -/
theorem toNat_get_counts_record {s : Stats} {r : Record} {c : Counter}
    (h : (s.counts.get c).toNat + r.adds c < UInt64.size) :
    ((s.record r).counts.get c).toNat = (s.counts.get c).toNat + r.adds c := by
  have hadds : r.adds c < UInt64.size := Nat.lt_of_le_of_lt (Nat.le_add_left _ _) h
  rw [get_counts_record, UInt64.toNat_add, UInt64.toNat_ofNat_of_lt' hadds, Nat.mod_eq_of_lt h]

theorem Ahead.record {previous : Snapshot} {s : Stats} {records : List Record} {r : Record}
    (h : Ahead previous s records) (hroom : ∀ c, (s.counts.get c).toNat + r.adds c < UInt64.size) :
    Ahead previous (s.record r) (records ++ [r]) where
  counts c := by
    rw [toNat_get_counts_record (hroom c), h.counts, total_append, total_singleton, Nat.add_assoc]
  latency := holds_record r h.latency

end Stats

namespace Report

/-- A report is about some records. -/
structure Describes (interval : Duration) (report : Report) (records : List Stats.Record) :
    Prop where
  interval : report.interval = interval
  counts : ∀ c, (report.counts.get c).toNat = Stats.total c records
  average : Stats.Fits records → report.averageWrite.map Duration.millis =
    (LatencyWindow.meanMillis? (Stats.times records)).map (· % UInt64.size)

/-- What is logged about some records: of the counts, neither those of batched events nor those of
cache hits. -/
theorem Describes.fields_eq {interval : Duration} {report : Report} {records : List Stats.Record}
    (h : Describes interval report records) (hfits : Stats.Fits records) :
    report.fields = [
      ("incoming", some (Stats.total .incoming records)),
      ("malformed", some (Stats.total .malformed records)),
      ("evicted", some (Stats.total .evicted records)),
      ("unresolved", some (Stats.total .unresolved records)),
      ("persisted", some (Stats.total .persisted records)),
      ("document_failures", some (Stats.total .documentFailures records)),
      ("batches_written", some (Stats.total .batchesWritten records)),
      ("batches_failed", some (Stats.total .batchesFailed records)),
      ("stream_retries", some (Stats.total .streamRetries records)),
      ("average_write_ms",
        (LatencyWindow.meanMillis? (Stats.times records)).map (· % UInt64.size)),
      ("interval_secs", some interval.seconds)] := by
  simp only [fields, counters, List.map_cons, List.map_nil, h.counts, h.average hfits, h.interval]
  rfl

end Report

namespace Reporter

open Stats (Ahead Record total)
open Report (Describes)

section Ticks

variable {r : Reporter} {s : Stats} {records : List Record}

private theorem describes_tick (h : Ahead r.previous s records) :
    Describes r.interval (r.tick s).1 records where
  interval := rfl
  counts c := by
    rw [tick, Stats.takeAverageLatency, Snapshot.toNat_get_since, h.counts, Nat.add_sub_cancel_left]
  average hfits := (h.latency hfits).millis_average?

private theorem ahead_tick (r : Reporter) (s : Stats) :
    Ahead (r.tick s).2.1.previous (r.tick s).2.2 [] :=
  Stats.ahead_empty (s := { s with latency := .empty }) rfl

theorem runTicks_succ (n : Nat) (r : Reporter) (s : Stats) : runTicks (n + 1) r s =
    ((r.tick s).1 :: (runTicks n (r.tick s).2.1 (r.tick s).2.2).1,
      (runTicks n (r.tick s).2.1 (r.tick s).2.2).2) := rfl

/-- What ticks leave as it is, and how many there were. -/
theorem runTicks_frame (n : Nat) (r : Reporter) (s : Stats) :
    (runTicks n r s).2.1.interval = r.interval ∧ (runTicks n r s).2.1.nanos = r.nanos ∧
      (runTicks n r s).2.1.ticks = r.ticks + n ∧ (runTicks n r s).2.1.running = r.running ∧
      (runTicks n r s).2.2.counts = s.counts := by
  induction n generalizing r s with
  | zero => exact ⟨rfl, rfl, rfl, rfl, rfl⟩
  | succ n ih =>
    obtain ⟨hinterval, hnanos, hticks, hrunning, hcounts⟩ := ih (r.tick s).2.1 (r.tick s).2.2
    rw [runTicks_succ]
    exact ⟨hinterval, hnanos, hticks.trans (Nat.add_right_comm _ _ _), hrunning, hcounts⟩

/-- Of some ticks at once the first one tells what was recorded before, and the others nothing. -/
theorem describes_runTicks {windows : Nat → List Record} (first n : Nat)
    (h : Ahead r.previous s (windows first)) (hempty : ∀ k > first, windows k = []) :
    List.Forall₂ (Describes r.interval) (runTicks n r s).1
        ((List.range' first n).map windows) ∧
      Ahead (runTicks n r s).2.1.previous (runTicks n r s).2.2 (windows (first + n)) := by
  induction n generalizing first r s with
  | zero => exact ⟨.nil, h⟩
  | succ n ih =>
    have hnext : Ahead (r.tick s).2.1.previous (r.tick s).2.2 (windows (first + 1)) := by
      rw [hempty _ (Nat.lt_succ_self first)]
      exact ahead_tick r s
    obtain ⟨hreports, hahead⟩ := ih (first + 1) hnext fun k hk => hempty k (Nat.lt_of_succ_lt hk)
    rw [runTicks_succ, List.range'_succ, List.map_cons, ← Nat.add_assoc, Nat.add_right_comm]
    exact ⟨.cons (describes_tick h) hreports, hahead⟩

end Ticks

/-- What happens while a reporter runs. -/
inductive Step where
  | record (r : Record)
  | advance (nanos : Nat)
  | shutdown
deriving DecidableEq, Repr

def step (st : Reporter × Stats) : Step → List Report × Reporter × Stats
  | .record r => ([], st.1, st.2.record r)
  | .advance nanos => st.1.advance nanos st.2
  | .shutdown => ([], st.1.shutdown, st.2)

/-- The reports are listed in the order in which they are logged. -/
def run : List Step → Reporter × Stats → List Report × Reporter × Stats
  | [], st => ([], st)
  | x :: steps, st =>
    let later := run steps (step st x).2
    ((step st x).1 ++ later.1, later.2)

/-- How far the clock advances before shutdown. -/
def uptime : List Step → Nat
  | [] => 0
  | .record _ :: steps => uptime steps
  | .advance nanos :: steps => nanos + uptime steps
  | .shutdown :: _ => 0

/-- Each record with the time at which it is made. -/
def stamped : Nat → List Step → List (Nat × Record)
  | _, [] => []
  | now, .record r :: steps => (now, r) :: stamped now steps
  | now, .advance nanos :: steps => stamped (now + nanos) steps
  | now, .shutdown :: steps => stamped now steps

/-- How many ticks there are until a point in time. -/
def ticksAt (interval : Duration) (time : Nat) : Nat := time / interval.toNanos

/-- The records between a tick and the next one. -/
def window (interval : Duration) (tick : Nat) (history : List (Nat × Record)) : List Record :=
  (history.filter (ticksAt interval ·.1 = tick)).map (·.2)

/-- The records before a point in time. -/
def before (time : Nat) (history : List (Nat × Record)) : List Record :=
  (history.filter (·.1 < time)).map (·.2)

section Windows

variable {interval : Duration} {tick now time later : Nat} {history : List (Nat × Record)}

theorem ticksAt_le (interval : Duration) (h : time ≤ later) :
    ticksAt interval time ≤ ticksAt interval later := Nat.div_le_div_right h

theorem window_append (interval : Duration) (tick : Nat) (first second : List (Nat × Record)) :
    window interval tick (first ++ second) =
      window interval tick first ++ window interval tick second := by
  rw [window, List.filter_append, List.map_append]
  rfl

theorem window_eq_nil (h : ∀ e ∈ history, ticksAt interval e.1 ≠ tick) :
    window interval tick history = [] := by
  rw [window, List.map_eq_nil_iff, List.filter_eq_nil_iff]
  simpa using h

private theorem window_singleton (interval : Duration) (now : Nat) (r : Record) :
    window interval (ticksAt interval now) [(now, r)] = [r] := by
  simp [window]

private theorem le_of_mem_stamped {steps : List Step} {e : Nat × Record}
    (h : e ∈ stamped now steps) : now ≤ e.1 := by
  fun_induction stamped now steps with
  | case1 => exact absurd h List.not_mem_nil
  | case2 now r steps ih =>
    rcases List.mem_cons.1 h with rfl | h
    · exact le_rfl
    · exact ih h
  | case3 now nanos steps ih => exact (Nat.le_add_right now nanos).trans (ih h)
  | case4 now steps ih => exact ih h

/-- What is yet to be recorded is not what the ticks until now are about. -/
theorem window_append_stamped (h : tick < ticksAt interval now) (history : List (Nat × Record))
    (steps : List Step) :
    window interval tick (history ++ stamped now steps) = window interval tick history := by
  have hlater : window interval tick (stamped now steps) = [] := window_eq_nil fun e he =>
    Nat.ne_of_gt (Nat.lt_of_lt_of_le h (ticksAt_le interval (le_of_mem_stamped he)))
  rw [window_append, hlater, List.append_nil]

private theorem total_filter_or {p q : Nat × Record → Bool} (c : Counter)
    (h : ∀ e ∈ history, ¬(p e = true ∧ q e = true)) :
    total c ((history.filter fun e => p e || q e).map (·.2)) =
      total c ((history.filter p).map (·.2)) + total c ((history.filter q).map (·.2)) := by
  induction history with
  | nil => rfl
  | cons e history ih =>
    have hrest := ih fun e he => h e (List.mem_cons_of_mem _ he)
    cases hp : p e with
    | true =>
      have hq : q e = false := by simpa [hp] using h e List.mem_cons_self
      simp [hp, hq, hrest, Stats.total_cons, Nat.add_assoc]
    | false =>
      cases hq : q e with
      | true => simp [hp, hq, hrest, Stats.total_cons, Nat.add_left_comm]
      | false => simp [hp, hq, hrest]

/-- What was recorded before a tick was recorded between two of the ticks up to it. -/
theorem sum_total_window (hinterval : 0 < interval.toNanos) (c : Counter) (ticks : Nat)
    (history : List (Nat × Record)) :
    ((List.range ticks).map fun tick => total c (window interval tick history)).sum =
      total c (before (ticks * interval.toNanos) history) := by
  have hbefore (ticks : Nat) : before (ticks * interval.toNanos) history =
      (history.filter fun e => ticksAt interval e.1 < ticks).map (·.2) := by
    simp only [before, ticksAt, Nat.div_lt_iff_lt_mul hinterval]
  rw [hbefore]
  induction ticks with
  | zero => simp [total]
  | succ ticks ih =>
    rw [List.range_succ, List.map_append, List.sum_append, ih, List.map_singleton,
      List.sum_singleton, window, ← total_filter_or]
    · simp only [← Bool.decide_or, Nat.lt_succ_iff_lt_or_eq]
    · intro e he
      simp only [decide_eq_true_eq]
      omega

end Windows

section Runs

theorem run_append (first second : List Step) (st : Reporter × Stats) :
    run (first ++ second) st =
      ((run first st).1 ++ (run second (run first st).2).1,
        (run second (run first st).2).2) := by
  induction first generalizing st with
  | nil => rfl
  | cons x first ih =>
    rw [List.cons_append, run, run, ih]
    simp only [List.append_assoc]

/-- The same reporter at another time. -/
def setNanos (nanos : Nat) (r : Reporter) : Reporter := { r with nanos := nanos }

/-- The clock is read when ticks are counted, not when they are run. -/
theorem runTicks_add (m n nanos later : Nat) (r : Reporter) (s : Stats) :
    runTicks (m + n) (r.setNanos later) s =
      ((runTicks m (r.setNanos nanos) s).1 ++
          (runTicks n ((runTicks m (r.setNanos nanos) s).2.1.setNanos later)
            (runTicks m (r.setNanos nanos) s).2.2).1,
        (runTicks n ((runTicks m (r.setNanos nanos) s).2.1.setNanos later)
          (runTicks m (r.setNanos nanos) s).2.2).2) := by
  induction m generalizing r s with
  | zero => rw [Nat.zero_add]; rfl
  | succ m ih =>
    rw [Nat.add_right_comm, runTicks_succ, runTicks_succ]
    exact congrArg (fun x => ((r.tick s).1 :: x.1, x.2)) (ih (r.tick s).2.1 (r.tick s).2.2)

theorem advance_of_running {r : Reporter} (h : r.running = true) (nanos : Nat) (s : Stats) :
    r.advance nanos s = runTicks ((r.nanos + nanos) / r.interval.toNanos - r.ticks)
      (r.setNanos (r.nanos + nanos)) s := by
  rw [advance, if_pos h]
  rfl

theorem advance_of_not_running {r : Reporter} (h : r.running = false) (nanos : Nat) (s : Stats) :
    r.advance nanos s = ([], r.setNanos (r.nanos + nanos), s) := by
  rw [advance, if_neg (by simp [h])]
  rfl

/-- It does not matter how far the clock advances at once. -/
theorem advance_add (m n : Nat) (r : Reporter) (s : Stats) : r.advance (m + n) s =
    ((r.advance m s).1 ++ ((r.advance m s).2.1.advance n (r.advance m s).2.2).1,
      ((r.advance m s).2.1.advance n (r.advance m s).2.2).2) := by
  cases hrunning : r.running with
  | false =>
    have hlater : (r.setNanos (r.nanos + m)).running = false := hrunning
    rw [advance_of_not_running hrunning, advance_of_not_running hrunning,
      advance_of_not_running hlater, List.nil_append, ← Nat.add_assoc]
    rfl
  | true =>
    obtain ⟨first, hfirst⟩ : ∃ first, first = (r.nanos + m) / r.interval.toNanos - r.ticks :=
      ⟨_, rfl⟩
    obtain ⟨hinterval, hnanos, hticks, hlater, -⟩ :=
      runTicks_frame first (r.setNanos (r.nanos + m)) s
    have hsecond : (r.nanos + m + n) / r.interval.toNanos - r.ticks =
        first + ((r.nanos + m + n) / r.interval.toNanos - (r.ticks + first)) := by
      have hle := Nat.div_le_div_right (c := r.interval.toNanos) (Nat.le_add_right (r.nanos + m) n)
      omega
    rw [advance_of_running hrunning, advance_of_running hrunning, ← hfirst,
      advance_of_running (hlater.trans hrunning), hinterval, hnanos, hticks, ← Nat.add_assoc]
    exact (congrArg (runTicks · _ s) hsecond).trans (runTicks_add _ _ _ _ r s)

private theorem run_advances (part : Nat) (parts : List Nat) (st : Reporter × Stats) :
    run [.advance (part :: parts).sum] st = run ((part :: parts).map .advance) st := by
  induction parts generalizing part st with
  | nil => rw [List.sum_singleton]; rfl
  | cons next parts ih =>
    calc run [.advance (part :: next :: parts).sum] st
        = run [.advance part, .advance (next :: parts).sum] st := by
          simp only [run, step, List.sum_cons, advance_add, List.append_nil]
      _ = run ((part :: next :: parts).map .advance) st :=
          congrArg (fun later => ((step st (.advance part)).1 ++ later.1, later.2)) (ih next _)

theorem run_split (first later : List Step) (part : Nat) (parts : List Nat)
    (st : Reporter × Stats) : run (first ++ .advance (part :: parts).sum :: later) st =
      run (first ++ ((part :: parts).map .advance ++ later)) st := by
  rw [← List.singleton_append, run_append first, run_append first, run_append [_] later,
    run_append (List.map _ _) later, run_advances]

theorem reports_run_of_not_running {r : Reporter} (h : r.running = false) (steps : List Step)
    (s : Stats) : (run steps (r, s)).1 = [] := by
  induction steps generalizing r s with
  | nil => rfl
  | cons x steps ih =>
    cases x with
    | record record => exact ih h _
    | advance nanos =>
      rw [run, step, advance_of_not_running h]
      exact ih (by exact h) s
    | shutdown => exact ih (by rfl) s

/-- Nothing is logged after shutdown. -/
theorem reports_run_shutdown (steps later : List Step) (st : Reporter × Stats) :
    (run (steps ++ .shutdown :: later) st).1 = (run steps st).1 := by
  have hnone := reports_run_of_not_running (r := (run steps st).2.1.shutdown) rfl later
    (run steps st).2.2
  rw [run_append, run, step, hnone, List.append_nil, List.append_nil]

/-- As many reports as a part of a run logs are logged by the whole of it in the same time. -/
theorem reports_run_take (steps : List Step) (n : Nat) (st : Reporter × Stats) :
    (run (steps.take n) st).1 = (run steps st).1.take (run (steps.take n) st).1.length := by
  have hsplit := run_append (steps.take n) (steps.drop n) st
  rw [List.take_append_drop] at hsplit
  rw [hsplit, List.take_left]

/-- A running reporter at a point in time, and what was recorded until then. -/
structure Tracks (interval : Duration) (now : Nat) (history : List (Nat × Record)) (r : Reporter)
    (s : Stats) : Prop where
  interval_eq : r.interval = interval
  nanos_eq : r.nanos = now
  ticks_eq : r.ticks = ticksAt interval now
  running : r.running = true
  past : ∀ e ∈ history, e.1 ≤ now
  ahead : Ahead r.previous s (window interval (ticksAt interval now) history)

variable {interval : Duration} {now : Nat} {history : List (Nat × Record)} {r : Reporter}
  {s : Stats}

theorem tracks_start (hinterval : 0 < interval.toNanos) (hlatency : s.latency = .empty) :
    Tracks interval 0 [] (start interval s) s where
  interval_eq := rfl
  nanos_eq := rfl
  ticks_eq := (Nat.zero_div _).symm
  running := by
    have hzero : interval.isZero = false :=
      Bool.eq_false_iff.2 fun hzero => Nat.ne_of_gt hinterval (interval.isZero_iff.1 hzero)
    rw [start, hzero]
    rfl
  past _ h := absurd h List.not_mem_nil
  ahead := Stats.ahead_empty hlatency

theorem Tracks.record (h : Tracks interval now history r s) {record : Record}
    (hroom : ∀ c, (s.counts.get c).toNat + record.adds c < UInt64.size) :
    Tracks interval now (history ++ [(now, record)]) r (s.record record) where
  interval_eq := h.interval_eq
  nanos_eq := h.nanos_eq
  ticks_eq := h.ticks_eq
  running := h.running
  past e he := by
    rcases List.mem_append.1 he with he | he
    · exact h.past e he
    · rw [List.mem_singleton.1 he]
  ahead := by
    rw [window_append, window_singleton]
    exact h.ahead.record hroom

/-- While the clock advances, each tick is about what was recorded since the one before. -/
theorem Tracks.advance (h : Tracks interval now history r s) (nanos : Nat) :
    List.Forall₂ (Describes interval) (r.advance nanos s).1
        ((List.range' (ticksAt interval now)
          (ticksAt interval (now + nanos) - ticksAt interval now)).map
            (window interval · history)) ∧
      Tracks interval (now + nanos) history (r.advance nanos s).2.1 (r.advance nanos s).2.2 ∧
      (r.advance nanos s).2.2.counts = s.counts := by
  -- All that was recorded since the last tick belongs to the first one that comes.
  have hempty : ∀ k > ticksAt interval now, window interval k history = [] :=
    fun k hk => window_eq_nil fun e he =>
      Nat.ne_of_lt (Nat.lt_of_le_of_lt (ticksAt_le interval (h.past e he)) hk)
  have hnow : ticksAt interval now + (ticksAt interval (now + nanos) - ticksAt interval now) =
      ticksAt interval (now + nanos) :=
    Nat.add_sub_cancel' (ticksAt_le interval (Nat.le_add_right now nanos))
  have hadvance : r.advance nanos s = runTicks
      (ticksAt interval (now + nanos) - ticksAt interval now) (r.setNanos (now + nanos)) s := by
    rw [advance_of_running h.running, h.nanos_eq, h.interval_eq, h.ticks_eq]
    rfl
  have hahead : Ahead (r.setNanos (now + nanos)).previous s
      (window interval (ticksAt interval now) history) := h.ahead
  have hsame : (r.setNanos (now + nanos)).interval = interval := h.interval_eq
  rw [hadvance]
  generalize ticksAt interval (now + nanos) - ticksAt interval now = ticks at hnow ⊢
  obtain ⟨hinterval, hnanos, hticks, hrunning, hcounts⟩ :=
    runTicks_frame ticks (r.setNanos (now + nanos)) s
  obtain ⟨hreports, hnext⟩ := describes_runTicks _ ticks hahead hempty
  rw [hsame] at hreports
  rw [hnow] at hnext
  refine ⟨hreports, ⟨hinterval.trans hsame, hnanos, ?_, hrunning.trans h.running,
    fun e he => Nat.le_add_right_of_le (h.past e he), hnext⟩, hcounts⟩
  rw [hticks, ← hnow]
  exact congrArg (· + ticks) h.ticks_eq

private theorem range'_append_sub {first second third : Nat} (hfirst : first ≤ second)
    (hsecond : second ≤ third) : List.range' first (second - first) ++
      List.range' second (third - second) = List.range' first (third - first) := by
  have happend := List.range'_append_1 (s := first) (m := second - first) (n := third - second)
  rwa [Nat.add_sub_cancel' hfirst, Nat.add_comm, Nat.sub_add_sub_cancel hsecond hfirst] at happend

/-- Each report of a run is about the records of one interval. -/
theorem Tracks.describes_run (h : Tracks interval now history r s) (steps : List Step)
    (hroom : ∀ c, (s.counts.get c).toNat + total c ((stamped now steps).map (·.2)) < UInt64.size) :
    List.Forall₂ (Describes interval) (run steps (r, s)).1
      ((List.range' (ticksAt interval now)
        (ticksAt interval (now + uptime steps) - ticksAt interval now)).map
          (window interval · (history ++ stamped now steps))) := by
  fun_induction stamped now steps generalizing history r s with
  | case1 now => simp [run, uptime]
  | case2 now record steps ih =>
    simp only [List.map_cons, Stats.total_cons] at hroom
    have hrecord : ∀ c, (s.counts.get c).toNat + record.adds c < UInt64.size := fun c => by
      specialize hroom c
      omega
    have hrest := ih (h.record hrecord) fun c => by
      rw [Stats.toNat_get_counts_record (hrecord c), Nat.add_assoc]
      exact hroom c
    rwa [List.append_assoc] at hrest
  | case3 now nanos steps ih =>
    obtain ⟨hreports, htracks, hcounts⟩ := h.advance nanos
    have hrest := ih htracks (by rwa [hcounts])
    have hle := ticksAt_le interval (Nat.le_add_right now nanos)
    -- The ticks that are passed were told before the rest was recorded, and it does not touch them.
    have hpast : (List.range' (ticksAt interval now)
          (ticksAt interval (now + nanos) - ticksAt interval now)).map
            (window interval · (history ++ stamped (now + nanos) steps)) =
        (List.range' (ticksAt interval now)
          (ticksAt interval (now + nanos) - ticksAt interval now)).map
            (window interval · history) := by
      refine List.map_congr_left fun tick htick => window_append_stamped ?_ history steps
      obtain ⟨-, hlt⟩ := List.mem_range'_1.1 htick
      omega
    rw [uptime, ← Nat.add_assoc,
      ← range'_append_sub hle (ticksAt_le interval (Nat.le_add_right _ (uptime steps))),
      List.map_append, hpast]
    exact List.rel_append hreports hrest
  | case4 now steps ih =>
    have hnone := reports_run_of_not_running (r := r.shutdown) rfl steps s
    simp [run, step, uptime, hnone]

private theorem total_stamped_take_le (now : Nat) (steps : List Step) (n : Nat) (c : Counter) :
    total c ((stamped now (steps.take n)).map (·.2)) ≤ total c ((stamped now steps).map (·.2)) := by
  fun_induction stamped now steps generalizing n with
  | case1 now => simp [stamped]
  | case2 now record steps ih =>
    cases n with
    | zero => exact Nat.zero_le _
    | succ n => exact Nat.add_le_add_left (ih n) _
  | case3 now nanos steps ih | case4 now steps ih =>
    cases n with
    | zero => exact Nat.zero_le _
    | succ n => exact ih n

private theorem map_counts_of_describes {reports : List Report} {windows : List (List Record)}
    (h : List.Forall₂ (Describes interval) reports windows) (c : Counter) :
    reports.map (fun report => (report.counts.get c).toNat) = windows.map (total c) := by
  induction h with
  | nil => rfl
  | cons hreport hreports ih => rw [List.map_cons, List.map_cons, hreport.counts c, ih]

/-- A report is logged as soon as the clock has passed a tick, and no sooner, until shutdown. It is
about the records since the tick before, so that each record before the last tick is accounted for
once. It does not matter in how many parts the clock advances. -/
theorem reports_start {steps : List Step} (hinterval : 0 < interval.toNanos)
    (hlatency : s.latency = .empty)
    (hroom : ∀ c, (s.counts.get c).toNat + total c ((stamped 0 steps).map (·.2)) < UInt64.size) :
    let logged := fun steps => (run steps (start interval s, s)).1
    List.Forall₂ (Describes interval) (logged steps)
        ((List.range (ticksAt interval (uptime steps))).map (window interval · (stamped 0 steps))) ∧
      (∀ c, ((logged steps).map fun report => (report.counts.get c).toNat).sum =
        total c (before (ticksAt interval (uptime steps) * interval.toNanos) (stamped 0 steps))) ∧
      (∀ n, logged (steps.take n) =
        (logged steps).take (ticksAt interval (uptime (steps.take n)))) ∧
      (∀ later, logged (steps ++ .shutdown :: later) = logged steps) ∧
      ∀ first part parts later, run (first ++ .advance (part :: parts).sum :: later)
          (start interval s, s) =
        run (first ++ ((part :: parts).map .advance ++ later)) (start interval s, s) := by
  intro logged
  have hdescribes (n : Nat) : List.Forall₂ (Describes interval) (logged (steps.take n))
      ((List.range (ticksAt interval (uptime (steps.take n)))).map
        (window interval · (stamped 0 (steps.take n)))) := by
    have hrun := (tracks_start hinterval hlatency).describes_run (steps.take n) fun c =>
      Nat.lt_of_le_of_lt (Nat.add_le_add_left (total_stamped_take_le 0 steps n c) _) (hroom c)
    have hzero : ticksAt interval 0 = 0 := Nat.zero_div _
    rwa [hzero, Nat.zero_add, Nat.sub_zero, List.nil_append, ← List.range_eq_range'] at hrun
  have hall := hdescribes steps.length
  rw [List.take_length] at hall
  refine ⟨hall, fun c => ?_, fun n => ?_, fun later => reports_run_shutdown steps later _,
    fun first part parts later => run_split first later part parts _⟩
  · rw [map_counts_of_describes hall, List.map_map, ← sum_total_window hinterval]
    rfl
  · have hlength := (hdescribes n).length_eq
    rw [List.length_map, List.length_range] at hlength
    rw [← hlength]
    exact reports_run_take steps n _

def oneSecond : Duration := .ofMillis 1000

/-- Three ticks are passed at once, and a fourth one before shutdown. -/
def sampleSteps : List Step := [
  .record (.occurred .incoming), .advance (500 * nanosPerMilli),
  .record (.written 10 2 (.ofMillis 5)), .advance (2700 * nanosPerMilli),
  .record (.notWritten (.ofMillis 40)), .advance (1000 * nanosPerMilli), .shutdown,
  .record (.occurred .malformed), .advance (5000 * nanosPerMilli)]

theorem reports_start_sampleSteps :
    let logged := (run sampleSteps (start oneSecond .empty, .empty)).1
    0 < oneSecond.toNanos ∧ Stats.empty.latency = .empty ∧
      (∀ c, (Stats.empty.counts.get c).toNat +
        total c ((stamped 0 sampleSteps).map (·.2)) < UInt64.size) ∧
      List.Forall₂ (Describes oneSecond) logged
        [[.occurred .incoming, .written 10 2 (.ofMillis 5)], [], [],
          [.notWritten (.ofMillis 40)]] ∧
      (logged.map fun report => (report.counts.get .documentFailures).toNat).sum = 2 ∧
      (logged.map fun report => (report.counts.get .malformed).toNat).sum = 0 := by
  intro logged
  have hroom : ∀ c, (Stats.empty.counts.get c).toNat +
      total c ((stamped 0 sampleSteps).map (·.2)) < UInt64.size := by
    intro c
    cases c <;> decide
  obtain ⟨hdescribes, hsum, -⟩ := @reports_start oneSecond .empty sampleSteps (by decide) rfl hroom
  have hwindows : (List.range (ticksAt oneSecond (uptime sampleSteps))).map
      (window oneSecond · (stamped 0 sampleSteps)) =
        [[.occurred .incoming, .written 10 2 (.ofMillis 5)], [], [],
          [.notWritten (.ofMillis 40)]] := by decide
  rw [hwindows] at hdescribes
  exact ⟨by decide, rfl, hroom, hdescribes, (hsum _).trans (by decide), (hsum _).trans (by decide)⟩

/-- A write that took 2 ^ 64 milliseconds. -/
def longWrite : List Step := [
  .record (.written 1 0 ⟨18446744073709551, 616 * nanosPerMilli, by decide, by decide⟩),
  .advance (1500 * nanosPerMilli)]

theorem exists_average_wrapped : ¬∀ (interval : Duration) (steps : List Step),
    0 < interval.toNanos →
    (∀ c, total c ((stamped 0 steps).map (·.2)) < UInt64.size) →
    Stats.Fits ((stamped 0 steps).map (·.2)) →
    (run steps (start interval .empty, .empty)).1.map
        (fun report => report.averageWrite.map Duration.millis) =
      (List.range (ticksAt interval (uptime steps))).map fun tick =>
        LatencyWindow.meanMillis? (Stats.times (window interval tick (stamped 0 steps))) := by
  intro h
  have hmeans := h oneSecond longWrite (by decide) (fun c => by cases c <;> decide) (by decide)
  revert hmeans
  decide

end Runs

end Reporter
end PlaybackRelay

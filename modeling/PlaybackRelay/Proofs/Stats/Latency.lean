import PlaybackRelay.Proofs.Duration.Words
import PlaybackRelay.Proofs.Stats.Reports

/-!
The average time of a write, over any sequence of records and takings of the average. Each average
is about the writes since the one before, whether or not they succeeded, and the words that it is
computed in do not run over as long as the number and the total time of these writes fit them. Main
statement: `averages_of_measurable`.
-/
namespace PlaybackRelay

namespace Duration

private theorem toNanos_div_second (d : Duration) : d.toNanos / nanosPerSecond = d.seconds := by
  rw [toNanos, Nat.mul_comm, Nat.mul_add_div (by decide), Nat.div_eq_of_lt d.nanos_lt, Nat.add_zero]

private theorem toNanos_mod_second (d : Duration) : d.toNanos % nanosPerSecond = d.nanos := by
  rw [toNanos, Nat.mul_comm, Nat.mul_add_mod, Nat.mod_eq_of_lt d.nanos_lt]

end Duration

namespace LatencyWindow

structure Words where
  total : Duration.Words
  samples : UInt32
deriving DecidableEq, Repr

namespace Words

def empty : Words := ⟨⟨0, 0⟩, 0⟩

def add? (w : Words) (elapsed : Duration.Words) : Option Words := do
  let total ← w.total.add? elapsed
  let samples ← fits? UInt32.size (w.samples.toNat + 1)
  return ⟨total, .ofNat samples⟩

def average? (w : Words) : Option (Option Duration.Words) :=
  if w.samples = 0 then some none else (w.total.div? w.samples).map some

end Words

def words (w : LatencyWindow) : Words := ⟨w.total.words, .ofNat w.samples⟩

variable {w : LatencyWindow} {times : List Nat}

theorem add?_words {elapsed : Duration} (htotal : (w.total.add? elapsed).isSome)
    (hsamples : w.samples + 1 < UInt32.size) :
    w.words.add? elapsed.words = some (w.add elapsed).words := by
  obtain ⟨total, htotal⟩ := Option.isSome_iff_exists.1 htotal
  have hcount : w.words.samples.toNat = w.samples :=
    UInt32.toNat_ofNat_of_lt' (Nat.lt_of_succ_lt hsamples)
  have hsum : w.words.total.add? elapsed.words = some total.words := by
    rw [words, Duration.add?_words, htotal, Option.map_some]
  rw [Words.add?, hsum, hcount, Option.bind_eq_bind, Option.bind_some,
    bind_fits? hsamples, add, htotal]
  rfl

theorem average?_words (hsamples : w.samples < UInt32.size) :
    w.words.average? = some (w.average?.map Duration.words) := by
  have hcount : (UInt32.ofNat w.samples).toNat = w.samples := UInt32.toNat_ofNat_of_lt' hsamples
  have hzero : UInt32.ofNat w.samples = 0 ↔ w.samples = 0 := by
    rw [← UInt32.toNat_inj, hcount]
    rfl
  unfold Words.average? average? words
  by_cases hempty : w.samples = 0
  · rw [if_pos (hzero.2 hempty), if_pos hempty]
    rfl
  · rw [if_neg (mt hzero.1 hempty), if_neg hempty, Duration.div?_words _ (mt hzero.1 hempty),
      hcount]
    rfl

/-- The mean of some numbers of nanoseconds, rounded down, in seconds and nanoseconds. -/
def mean? (times : List Nat) : Option (Nat × Nat) :=
  if times = [] then none
  else some (times.sum / times.length / nanosPerSecond, times.sum / times.length % nanosPerSecond)

theorem Holds.average? (h : w.Holds times) :
    w.average?.map (fun d => (d.seconds, d.nanos)) = mean? times := by
  unfold LatencyWindow.average? mean?
  rw [h.samples]
  by_cases hempty : times = []
  · rw [if_pos hempty, hempty]
    rfl
  · have hdiv : (w.total.div times.length).toNanos = times.sum / times.length := by
      rw [Duration.toNanos_div, h.total]
    rw [if_neg hempty, if_neg (mt List.length_eq_zero_iff.1 hempty), ← hdiv,
      Duration.toNanos_div_second, Duration.toNanos_mod_second]
    rfl

end LatencyWindow

namespace Stats

/-- What is done with the statistics: they are added to, or the average is taken. -/
inductive Use where
  | record (r : Record)
  | take
deriving DecidableEq, Repr

/-- The averages in the order in which they are taken. -/
def averages : List Use → Stats → List (Option Duration)
  | [], _ => []
  | .record r :: uses, s => averages uses (s.record r)
  | .take :: uses, s => s.takeAverageLatency.1 :: averages uses s.takeAverageLatency.2

/-- The records between one taking and the next. Those behind the last one are not among them. -/
def spans : List Record → List Use → List (List Record)
  | _, [] => []
  | since, .record r :: uses => spans (since ++ [r]) uses
  | since, .take :: uses => since :: spans [] uses

/-- The same averages computed in words. There is none once a word has run over. -/
def averagesInWords : List Use → Option LatencyWindow.Words →
    List (Option (Option Duration.Words))
  | [], _ => []
  | .record r :: uses, w =>
    averagesInWords uses (r.elapsed?.elim w fun elapsed => w.bind (·.add? elapsed.words))
  | .take :: uses, w => w.bind (·.average?) :: averagesInWords uses (w.map fun _ => .empty)

/-- The writes among some records are few enough to be counted in 32 bits, and all together took no
longer than a duration can be. -/
def Measurable (records : List Record) : Prop :=
  (times records).length < UInt32.size ∧ Fits records

instance (records : List Record) : Decidable (Measurable records) :=
  inferInstanceAs (Decidable (_ ∧ _))

section Averages

variable {s : Stats} {w : Option LatencyWindow.Words} {since : List Record} {r : Record}

theorem Measurable.of_concat (h : Measurable (since ++ [r])) : Measurable since := by
  unfold Measurable Fits at *
  rw [times_concat, List.length_append, List.sum_append] at h
  omega

/-- The statistics and the words hold the records since the average was last taken, if these can be
measured. -/
def InStep (s : Stats) (w : Option LatencyWindow.Words) (since : List Record) : Prop :=
  Measurable since → s.latency.Holds (times since) ∧ w = some s.latency.words

theorem inStep_empty (h : s.latency = .empty) : InStep s (some .empty) [] := by
  intro _
  rw [h]
  exact ⟨LatencyWindow.holds_empty, rfl⟩

theorem InStep.record (h : InStep s w since) (r : Record) :
    InStep (s.record r) (r.elapsed?.elim w fun elapsed => w.bind (·.add? elapsed.words))
      (since ++ [r]) := by
  intro hmeasurable
  obtain ⟨hholds, rfl⟩ := h hmeasurable.of_concat
  have hnext := holds_record r (fun _ => hholds) hmeasurable.2
  refine ⟨hnext, ?_⟩
  rw [latency_record]
  cases helapsed : r.elapsed? with
  | none => rfl
  | some elapsed =>
    obtain ⟨hfew, hfits⟩ := hmeasurable
    unfold Fits at hfits
    rw [times_concat, helapsed] at hfew hfits
    simp only [Option.map_some, Option.toList_some, List.length_append, List.length_singleton,
      List.sum_append, List.sum_singleton] at hfew hfits
    rw [← hholds.samples] at hfew
    rw [← hholds.total] at hfits
    exact LatencyWindow.add?_words (Duration.isSome_add? hfits) hfew

theorem averages_of_inStep {uses : List Use} (h : InStep s w since)
    (hspans : ∀ span ∈ spans since uses, Measurable span) :
    (averages uses s).map (·.map fun d => (d.seconds, d.nanos)) =
        (spans since uses).map (fun span => LatencyWindow.mean? (times span)) ∧
      averagesInWords uses w =
        (averages uses s).map fun average? => some (average?.map Duration.words) := by
  fun_induction spans since uses generalizing s w with
  | case1 since => exact ⟨rfl, rfl⟩
  | case2 since r uses ih => exact ih (h.record r) hspans
  | case3 since uses ih =>
    obtain ⟨hsince, hspans⟩ := List.forall_mem_cons.1 hspans
    obtain ⟨hholds, rfl⟩ := h hsince
    have hempty : InStep s.takeAverageLatency.2 (some .empty) [] := inStep_empty rfl
    obtain ⟨haverages, hwords⟩ := ih hempty hspans
    have hfew : s.latency.samples < UInt32.size := by
      rw [hholds.samples]
      exact hsince.1
    constructor
    · rw [averages, List.map_cons, List.map_cons, haverages]
      exact congrArg (· :: _) hholds.average?
    · rw [averagesInWords, averages, List.map_cons, ← hwords]
      exact congrArg (· :: _) (LatencyWindow.average?_words hfew)

/-- Each average is the mean of the times that writes took since the one before, or none if there
was no write, and no step in which it is computed runs over a word. -/
theorem averages_of_measurable {uses : List Use} (hlatency : s.latency = .empty)
    (hspans : ∀ span ∈ spans [] uses, Measurable span) :
    (averages uses s).map (·.map fun d => (d.seconds, d.nanos)) =
        (spans [] uses).map (fun span => LatencyWindow.mean? (times span)) ∧
      averagesInWords uses (some .empty) =
        (averages uses s).map fun average? => some (average?.map Duration.words) :=
  averages_of_inStep (inStep_empty hlatency) hspans

/-- The longest time that a write can take. -/
def longest : Duration := ⟨UInt64.size - 1, nanosPerSecond - 1, by decide, by decide⟩

/-- Three writes, one of which fails, then none, then the longest one. The writes at the end run
over, but the average is not taken any more. -/
def sampleUses : List Use := [
  .take, .record (.written 10 2 (.ofMillis 10)), .record (.occurred .incoming),
  .record (.notWritten (.ofMillis 10)), .record (.written 3 0 (.ofMillis 11)), .take, .take,
  .record (.written 1 0 longest), .take, .record (.notWritten longest),
  .record (.notWritten longest)]

theorem averages_of_measurable_sampleUses :
    Stats.empty.latency = .empty ∧ (∀ span ∈ spans [] sampleUses, Measurable span) ∧
      (averages sampleUses .empty).map (·.map fun d => (d.seconds, d.nanos)) =
        [none, some (0, 10333333), none, some (18446744073709551615, 999999999)] ∧
      averagesInWords sampleUses (some .empty) =
        [some none, some (some ⟨0, 10333333⟩), some none,
          some (some ⟨18446744073709551615, 999999999⟩)] := by
  have hspans : ∀ span ∈ spans [] sampleUses, Measurable span := by decide
  obtain ⟨hmeans, hwords⟩ := averages_of_measurable (s := .empty) rfl hspans
  exact ⟨rfl, hspans, hmeans.trans (by decide), hwords.trans (by decide)⟩

end Averages

end Stats
end PlaybackRelay

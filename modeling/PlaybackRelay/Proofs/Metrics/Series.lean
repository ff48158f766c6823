import Mathlib.Data.List.Nodup
import PlaybackRelay.Metrics.Basic

/-!
The value of each series after something was exported: what was added to it, and nothing else. Main
statements: `Metrics.value_increase`, `Histogram.value_observe` and `Histogram.count_bucket`.
-/
namespace PlaybackRelay

namespace Metrics

theorem value_cons (name series : String) (n : Nat) (m : Metrics) :
    value name ((series, n) :: m) = if name = series then n else value name m := by
  by_cases h : name = series
  · simp [value, h]
  · simp [value, List.lookup_cons, beq_eq_false_iff_ne.2 h, h]

theorem value_increase (name series : String) (n : Nat) (m : Metrics) :
    value name (increase series n m) = value name m + if name = series then n else 0 := by
  induction m with
  | nil =>
    rw [increase, value_cons]
    exact (Nat.zero_add _).symm
  | cons entry m ih =>
    obtain ⟨first, count⟩ := entry
    rw [increase]
    split
    case isTrue heq =>
      subst heq
      rw [value_cons, value_cons]
      split <;> simp
    case isFalse hne =>
      rw [value_cons, value_cons, ih]
      split
      case isTrue hname =>
        subst hname
        rw [if_neg hne, Nat.add_zero]
      case isFalse => rfl

theorem value_foldl_increase (name : String) (names : List String) (m : Metrics) :
    value name (names.foldl (fun m series => increase series 1 m) m) =
      value name m + names.count name := by
  induction names generalizing m with
  | nil => rfl
  | cons series names ih =>
    have hcount : (series :: names).count name =
        names.count name + if name = series then 1 else 0 := by
      by_cases h : name = series
      · rw [h, List.count_cons_self, if_pos rfl]
      · rw [List.count_cons_of_ne (Ne.symm h), if_neg h, Nat.add_zero]
    rw [List.foldl_cons, ih, value_increase, hcount]
    omega

end Metrics

namespace Histogram

theorem value_observe (h : Histogram) (v : Nat) (name : String) (m : Metrics) :
    (h.observe v m).value name = m.value name + (h.series v).count name :=
  Metrics.value_foldl_increase name (h.series v) m

theorem toList_bucket (h : Histogram) (label : String) :
    (h.bucket label).toList =
      h.name.toList ++ ("_bucket\x7ble=\"".toList ++ (label.toList ++ "\"\x7d".toList)) := by
  simp [bucket, String.toList_append]

theorem toList_count (h : Histogram) : h.count.toList = h.name.toList ++ "_count".toList := by
  simp [count, String.toList_append]

theorem bucket_inj (h : Histogram) {label other : String} :
    h.bucket label = h.bucket other ↔ label = other := by
  rw [← String.toList_inj, toList_bucket, toList_bucket, List.append_cancel_left_eq,
    List.append_cancel_left_eq, List.append_cancel_right_eq, String.toList_inj]

theorem bucket_ne_count (h : Histogram) (label : String) : h.bucket label ≠ h.count := by
  rw [ne_eq, ← String.toList_inj, toList_bucket, toList_count, List.append_cancel_left_eq]
  simp

/-- Each series of a histogram has its name in front. -/
theorem not_mem_series {h : Histogram} {name : String} (hname : ¬ h.name.toList <+: name.toList)
    (v : Nat) : name ∉ h.series v := by
  intro hmem
  refine hname ?_
  rw [series, List.mem_append, List.mem_map, List.mem_cons, List.mem_singleton] at hmem
  rcases hmem with ⟨bound, -, rfl⟩ | rfl | rfl
  · rw [toList_bucket]
    exact List.prefix_append _ _
  · rw [toList_bucket]
    exact List.prefix_append _ _
  · rw [toList_count]
    exact List.prefix_append _ _

/-- No two bounds have the same label. -/
structure Labelled (h : Histogram) : Prop where
  nodup : (h.bounds.map Prod.fst).Nodup
  finite : "+Inf" ∉ h.bounds.map Prod.fst

theorem count_count (h : Histogram) (v : Nat) : (h.series v).count h.count = 1 := by
  have hbuckets : h.count ∉ (h.bounds.filter fun bound => v ≤ bound.2).map
      fun bound => h.bucket bound.1 := by
    intro hmem
    obtain ⟨bound, -, hbound⟩ := List.mem_map.1 hmem
    exact h.bucket_ne_count bound.1 hbound
  rw [series, List.count_append, List.count_eq_zero_of_not_mem hbuckets,
    List.count_cons_of_ne (h.bucket_ne_count _), List.count_singleton_self]

theorem count_bucket {h : Histogram} (hlabels : h.Labelled) {bound : String × Nat}
    (hbound : bound ∈ h.bounds) (v : Nat) :
    (h.series v).count (h.bucket bound.1) = if v ≤ bound.2 then 1 else 0 := by
  have hfinite : h.bucket "+Inf" ≠ h.bucket bound.1 := by
    rw [ne_eq, bucket_inj]
    intro heq
    exact hlabels.finite (heq ▸ List.mem_map_of_mem hbound)
  have hcount : h.count ≠ h.bucket bound.1 := (h.bucket_ne_count _).symm
  have hnodup : ((h.bounds.filter fun bound => v ≤ bound.2).map
      fun bound => h.bucket bound.1).Nodup := by
    refine List.Nodup.map_on ?_ ((hlabels.nodup.of_map _).filter _)
    intro a ha b hb hab
    exact List.inj_on_of_nodup_map hlabels.nodup (List.mem_of_mem_filter ha)
      (List.mem_of_mem_filter hb) (h.bucket_inj.1 hab)
  have hmem : h.bucket bound.1 ∈ ((h.bounds.filter fun bound => v ≤ bound.2).map
      fun bound => h.bucket bound.1) ↔ v ≤ bound.2 := by
    constructor
    · intro hmem
      obtain ⟨other, hother, hlabel⟩ := List.mem_map.1 hmem
      obtain ⟨hother, hle⟩ := List.mem_filter.1 hother
      rw [← List.inj_on_of_nodup_map hlabels.nodup hother hbound (h.bucket_inj.1 hlabel)]
      exact of_decide_eq_true hle
    · intro hle
      exact List.mem_map_of_mem (List.mem_filter.2 ⟨hbound, decide_eq_true hle⟩)
  rw [series, List.count_append, List.count_cons_of_ne hfinite, List.count_cons_of_ne hcount,
    List.count_nil, Nat.add_zero, hnodup.count]
  simp only [hmem]

end Histogram
end PlaybackRelay

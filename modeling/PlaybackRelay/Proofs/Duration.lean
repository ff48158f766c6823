import PlaybackRelay.Duration

/-!
Lengths of time as whole numbers of nanoseconds, by which they are ordered, added up, multiplied and
divided.
-/
namespace PlaybackRelay.Duration

theorem toNanos_lt (d : Duration) : d.toNanos < UInt64.size * nanosPerSecond := by
  have hseconds := d.seconds_lt
  have hnanos := d.nanos_lt
  unfold toNanos nanosPerSecond at *
  omega

/-- The nanoseconds beyond whole seconds are carried. -/
theorem toNanos_of_mk? {seconds nanos : Nat} {d : Duration} (h : mk? seconds nanos = some d) :
    d.toNanos = seconds * nanosPerSecond + nanos := by
  unfold mk? at h
  split at h
  · obtain rfl := Option.some.inj h
    simp only [toNanos]
    rw [Nat.add_mul, Nat.add_assoc, Nat.div_add_mod']
  · contradiction

theorem le_of_mk?_eq_none {seconds nanos : Nat} (h : mk? seconds nanos = none) :
    UInt64.size * nanosPerSecond ≤ seconds * nanosPerSecond + nanos := by
  unfold mk? at h
  split at h
  case isTrue => contradiction
  case isFalse hlarge =>
    unfold nanosPerSecond at *
    omega

theorem toNanos_of_add? {a b sum : Duration} (h : a.add? b = some sum) :
    sum.toNanos = a.toNanos + b.toNanos := by
  rw [toNanos_of_mk? h, toNanos, toNanos, Nat.add_mul, Nat.add_add_add_comm]

theorem isSome_add? {a b : Duration} (h : a.toNanos + b.toNanos < UInt64.size * nanosPerSecond) :
    (a.add? b).isSome := by
  rw [Option.isSome_iff_ne_none]
  intro hnone
  have hlarge := le_of_mk?_eq_none hnone
  rw [Nat.add_mul, Nat.add_add_add_comm] at hlarge
  exact Nat.not_le.2 h hlarge

theorem toNanos_of_mul? {d product : Duration} {factor : Nat}
    (h : d.mul? factor = some product) : product.toNanos = d.toNanos * factor := by
  rw [toNanos_of_mk? h, toNanos, Nat.add_mul, Nat.mul_right_comm]

/-- A product that cannot be written down is longer than all that can. -/
theorem lt_of_mul?_eq_none {d : Duration} {factor : Nat} (h : d.mul? factor = none)
    (other : Duration) : other.toNanos < d.toNanos * factor := by
  refine Nat.lt_of_lt_of_le other.toNanos_lt ?_
  rw [toNanos, Nat.add_mul, Nat.mul_right_comm]
  exact le_of_mk?_eq_none h

/-- The seconds that do not divide evenly are carried. -/
theorem toNanos_div (d : Duration) (n : Nat) : (d.div n).toNanos = d.toNanos / n := by
  rcases Nat.eq_zero_or_pos n with rfl | hn
  · simp [div, toNanos]
  have hsplit : d.toNanos =
      n * (d.seconds / n * nanosPerSecond) + (d.seconds % n * nanosPerSecond + d.nanos) := by
    rw [← Nat.mul_assoc, ← Nat.add_assoc, ← Nat.add_mul, Nat.div_add_mod, toNanos]
  rw [hsplit, Nat.mul_add_div hn]
  rfl

theorem millis_eq (d : Duration) : d.millis = d.toNanos / nanosPerMilli % UInt64.size := by
  have hmillis : d.toNanos / nanosPerMilli = d.seconds * 1000 + d.nanos / nanosPerMilli := by
    unfold toNanos nanosPerSecond nanosPerMilli
    omega
  rw [millis, hmillis]

theorem le_iff_toNanos_le (a b : Duration) : a.le b = true ↔ a.toNanos ≤ b.toNanos := by
  have ha := a.nanos_lt
  have hb := b.nanos_lt
  simp only [le, Bool.or_eq_true, Bool.and_eq_true, decide_eq_true_eq]
  unfold toNanos nanosPerSecond at *
  omega

theorem toNanos_min (a b : Duration) : (a.min b).toNanos = Min.min a.toNanos b.toNanos := by
  by_cases h : a.le b
  · rw [min, if_pos h, Nat.min_eq_left ((le_iff_toNanos_le a b).1 h)]
  · have hle : b.toNanos ≤ a.toNanos := Nat.le_of_not_le (h ∘ (le_iff_toNanos_le a b).2)
    rw [min, if_neg h, Nat.min_eq_right hle]

theorem toNanos_ofMillis (ms : UInt64) : (ofMillis ms).toNanos = ms.toNat * nanosPerMilli := by
  have hsecond : nanosPerSecond = 1000 * nanosPerMilli := by decide
  calc (ofMillis ms).toNanos
      = ms.toNat / 1000 * nanosPerSecond + ms.toNat % 1000 * nanosPerMilli := rfl
    _ = (ms.toNat / 1000 * 1000 + ms.toNat % 1000) * nanosPerMilli := by
      rw [hsecond, ← Nat.mul_assoc, ← Nat.add_mul]
    _ = ms.toNat * nanosPerMilli := by rw [Nat.div_add_mod']

theorem isZero_iff (d : Duration) : d.isZero = true ↔ d.toNanos = 0 := by
  rw [isZero, Bool.and_eq_true, decide_eq_true_eq, decide_eq_true_eq]
  unfold toNanos nanosPerSecond
  omega

theorem toNanos_inj {a b : Duration} : a.toNanos = b.toNanos ↔ a = b := by
  refine ⟨fun h => ?_, congrArg toNanos⟩
  obtain ⟨seconds, nanos, _, hnanos⟩ := a
  obtain ⟨seconds', nanos', _, hnanos'⟩ := b
  rw [mk.injEq]
  simp only [toNanos] at h
  unfold nanosPerSecond at *
  omega

end PlaybackRelay.Duration

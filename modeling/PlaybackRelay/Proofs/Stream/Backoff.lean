import PlaybackRelay.Proofs.Duration
import PlaybackRelay.Stream.Backoff

/-!
The delays before attempts to connect again never fall and never exceed the maximum, and they double
for 31 attempts. Main statements: `toNanos_delay`, `toNanos_delay_le`, `toNanos_delay_mono` and
`delay_ofMillis`.
-/
namespace PlaybackRelay.Backoff

/-- The factor of an attempt doubles up to attempt 31; behind it the delay is the maximum, however
short the first one was. -/
theorem toNanos_delay (b : Backoff) (attempt : UInt32) :
    (b.delay attempt).toNanos =
      if attempt.toNat < 32 then
        min (b.initial.toNanos * Nat.pow 2 attempt.toNat) b.maximum.toNanos
      else b.maximum.toNanos := by
  have hfits : attempt < 32 ↔ attempt.toNat < 32 := UInt32.lt_iff_toNat_lt
  rw [delay, Duration.toNanos_min]
  by_cases hsmall : attempt.toNat < 32
  · rw [factor?, if_pos (hfits.2 hsmall), if_pos hsmall, Option.bind_some]
    cases hproduct : b.initial.mul? (Nat.pow 2 attempt.toNat) with
    | some product => rw [Option.getD_some, Duration.toNanos_of_mul? hproduct]
    | none =>
      have hlarge := Duration.lt_of_mul?_eq_none hproduct b.maximum
      rw [Option.getD_none, Nat.min_self, Nat.min_eq_right (Nat.le_of_lt hlarge)]
  · rw [factor?, if_neg (hsmall ∘ hfits.1), if_neg hsmall]
    exact Nat.min_self _

theorem toNanos_delay_le (b : Backoff) (attempt : UInt32) :
    (b.delay attempt).toNanos ≤ b.maximum.toNanos := by
  rw [delay, Duration.toNanos_min]
  exact Nat.min_le_right _ _

theorem toNanos_delay_mono (b : Backoff) {attempt later : UInt32}
    (h : attempt.toNat ≤ later.toNat) :
    (b.delay attempt).toNanos ≤ (b.delay later).toNanos := by
  by_cases hlater : later.toNat < 32
  · have hfirst : attempt.toNat < 32 := Nat.lt_of_le_of_lt h hlater
    have hfactor : Nat.pow 2 attempt.toNat ≤ Nat.pow 2 later.toNat :=
      Nat.pow_le_pow_right Nat.two_pos h
    have hproduct := Nat.mul_le_mul_left b.initial.toNanos hfactor
    rw [toNanos_delay, toNanos_delay, if_pos hfirst, if_pos hlater]
    exact Nat.le_min.2 ⟨Nat.le_trans (Nat.min_le_left _ _) hproduct, Nat.min_le_right _ _⟩
  · rw [toNanos_delay b later, if_neg hlater]
    exact toNanos_delay_le b attempt

theorem delay_of_le {b : Backoff} {attempt : UInt32} (h : 32 ≤ attempt.toNat) :
    b.delay attempt = b.maximum := by
  rw [← Duration.toNanos_inj, toNanos_delay, if_neg (Nat.not_lt.2 h)]

/-- With both intervals in milliseconds a delay is the first one doubled with every attempt, or the
maximum if that is shorter. From attempt 32 on this holds only where the doubled interval has
reached the maximum by then: the delay is the maximum there in any case. -/
theorem delay_ofMillis (initial maximum : UInt64) (maxAttempts attempt : UInt32) :
    ((⟨.ofMillis initial, .ofMillis maximum, maxAttempts⟩ : Backoff).delay attempt =
        .ofMillis (UInt64.ofNat (min (initial.toNat * Nat.pow 2 attempt.toNat) maximum.toNat)) ↔
      attempt.toNat < 32 ∨ maximum.toNat ≤ initial.toNat * Nat.pow 2 attempt.toNat) ∧
    (attempt.toNat < 32 ∨
      (⟨.ofMillis initial, .ofMillis maximum, maxAttempts⟩ : Backoff).delay attempt =
        .ofMillis maximum) := by
  refine ⟨?_, (Nat.lt_or_ge attempt.toNat 32).imp_right delay_of_le⟩
  have hfits : min (initial.toNat * Nat.pow 2 attempt.toNat) maximum.toNat < UInt64.size :=
    Nat.lt_of_le_of_lt (Nat.min_le_right _ _) maximum.toNat_lt_size
  rw [← Duration.toNanos_inj, toNanos_delay, Duration.toNanos_ofMillis, Duration.toNanos_ofMillis,
    Duration.toNanos_ofMillis, UInt64.toNat_ofNat_of_lt' hfits]
  by_cases hsmall : attempt.toNat < 32
  · rw [if_pos hsmall, Nat.mul_right_comm, ← Nat.mul_min_mul_right]
    exact iff_of_true rfl (Or.inl hsmall)
  · have hpositive : 0 < nanosPerMilli := by decide
    rw [if_neg hsmall, Nat.mul_right_cancel_iff hpositive, or_iff_right hsmall]
    omega

/-- A first delay of one millisecond is not doubled for the 32nd time. -/
theorem delay_ofMillis_32 :
    (⟨.ofMillis 1, .ofMillis 9223372036854775808, 40⟩ : Backoff).delay 32 ≠
      .ofMillis (UInt64.ofNat (min (1 * Nat.pow 2 32) 9223372036854775808)) := by
  rw [delay_of_le (by decide)]
  decide

end PlaybackRelay.Backoff

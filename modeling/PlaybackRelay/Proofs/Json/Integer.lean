import PlaybackRelay.Json.Read
import PlaybackRelay.Proofs.Json.Text

/-!
Written integers are read back. An integer of 64 bits is far below the largest double, also when it
is rounded up. Main statement: `readInteger_ofInt`.
-/
namespace PlaybackRelay.Json

namespace Number

/-- Rounding adds less than one unit of the last place. -/
theorem roundDouble_le (n : Nat) : roundDouble n ≤ n + 1 <<< (n.log2 - 52) := by
  have hdiv := Nat.div_add_mod n (1 <<< (n.log2 - 52))
  rw [Nat.mul_comm] at hdiv
  unfold roundDouble
  simp only
  split
  · omega
  · rw [Nat.add_one_mul]
    omega

private theorem roundDouble_lt {n : Nat} (h : n < UInt64.size) :
    roundDouble n < doubleOverflow := by
  have hround := roundDouble_le n
  have hunit : 1 <<< (n.log2 - 52) ≤ 1 <<< 12 := by
    rw [Nat.one_shiftLeft, Nat.one_shiftLeft]
    apply Nat.pow_le_pow_right (by decide)
    by_cases hn : n = 0
    · simp [hn]
    · have hlog : n.log2 < 64 := (Nat.log2_lt hn).2 h
      omega
  have hlarge : UInt64.size + 1 <<< 12 < doubleOverflow := by decide +kernel
  omega

theorem scaled_ofInt {i : Int} (h : i.natAbs < UInt64.size) : (ofInt i).scaled = ⟨i.natAbs, 0⟩ := by
  have hwhole : Scaled.ofWhole i.natAbs 0 = ⟨i.natAbs, 0⟩ := by
    rw [Scaled.ofWhole, if_pos h]
  simp [scaled, ofInt, hwhole, Scaled.addFraction]

theorem exceedsDouble_ofInt {i : Int} (h : i.natAbs < UInt64.size) :
    (ofInt i).exceedsDouble = false := by
  have hround := roundDouble_lt h
  have hone : roundDouble (Nat.pow 10 0) = 1 := by decide
  unfold exceedsDouble
  rw [scaled_ofInt h]
  simp only [Int.toNat_zero, hone, Nat.mul_one]
  split
  · rfl
  · rw [if_neg (by decide)]
    simpa using hround

theorem int?_ofInt (i : Int) : (ofInt i).int? = some i := by
  by_cases hi : i < 0
  · simp only [int?, ofInt, hi, decide_true, if_true]
    congr 1
    omega
  · simp only [int?, ofInt, hi, decide_false, Bool.false_eq_true, if_false]
    congr 1
    omega

end Number

theorem readInteger_ofInt {least most i : Int} (hleast : least ≤ i) (hmost : i ≤ most)
    (hwidth : i.natAbs < UInt64.size) {rest : List Char} (h : Delimited rest) :
    readInteger least most ((Number.ofInt i).text ++ rest) = .ok (i, rest) := by
  have hscan := scanNumber_text .truncated (Number.ofInt i) h
  obtain ⟨c, cs, htext, hc⟩ := (Number.ofInt i).exists_text_eq_cons
  have hzero : ¬ (((Number.ofInt i).negative = true ∧ (Number.ofInt i).whole = 0) ∨
      i < least ∨ most < i) := by
    simp only [Number.ofInt, decide_eq_true_eq]
    omega
  have hskip : skipBlanks (c :: (cs ++ rest)) = c :: (cs ++ rest) := by
    have hnumber := skipBlanks_text (.number (Number.ofInt i)) rest
    rwa [text, htext, List.cons_append] at hnumber
  rw [htext, List.cons_append] at hscan
  rw [htext, List.cons_append, readInteger, hskip]
  simp only [if_pos hc, hscan, bind, Except.bind, Number.exceedsDouble_ofInt hwidth,
    Number.int?_ofInt, if_neg hzero]
  rfl

end PlaybackRelay.Json

import PlaybackRelay.Proofs.Duration

/-!
Durations in machine words, 64 bits for the seconds and 32 for the nanoseconds, and the steps in
which words are added up and divided. There is no result where a step runs over a word. Main
statements: `add?_words` and `div?_words`.
-/
namespace PlaybackRelay

/-- A number, if words of some size can hold it. -/
def fits? (size n : Nat) : Option Nat := if n < size then some n else none

section Words

variable {α : Type} {size n : Nat}

theorem fits?_of_not_lt (h : ¬n < size) : fits? size n = none := if_neg h

theorem fits?_of_lt (h : n < size) : fits? size n = some n := if_pos h

theorem bind_fits? (h : n < size) (f : Nat → Option α) : (fits? size n >>= f) = f n := by
  rw [fits?_of_lt h]
  rfl

end Words

namespace Duration

structure Words where
  seconds : UInt64
  nanos : UInt32
deriving DecidableEq, Repr

namespace Words

/-- At most one second is carried, since there is less than one in the nanoseconds of each part. -/
def add? (a b : Words) : Option Words := do
  let seconds ← fits? UInt64.size (a.seconds.toNat + b.seconds.toNat)
  let nanos ← fits? UInt32.size (a.nanos.toNat + b.nanos.toNat)
  if nanos < nanosPerSecond then
    return ⟨.ofNat seconds, .ofNat nanos⟩
  else
    let carried ← fits? UInt64.size (seconds + 1)
    return ⟨.ofNat carried, .ofNat (nanos - nanosPerSecond)⟩

/-- What both divisions leave is put together and divided once more. -/
def div? (d : Words) (n : UInt32) : Option Words :=
  if n = 0 then none
  else do
    let whole ← fits? UInt64.size (d.seconds.toNat % n.toNat * nanosPerSecond)
    let left ← fits? UInt64.size (whole + d.nanos.toNat % n.toNat)
    let carried ← fits? UInt32.size (left / n.toNat)
    let nanos ← fits? UInt32.size (d.nanos.toNat / n.toNat + carried)
    return ⟨d.seconds / n.toUInt64, .ofNat nanos⟩

end Words

def words (d : Duration) : Words := ⟨.ofNat d.seconds, .ofNat d.nanos⟩

theorem two_mul_nanosPerSecond_lt : 2 * nanosPerSecond < UInt32.size := by decide

@[simp] theorem toNat_seconds_words (d : Duration) : d.words.seconds.toNat = d.seconds :=
  UInt64.toNat_ofNat_of_lt' d.seconds_lt

@[simp] theorem toNat_nanos_words (d : Duration) : d.words.nanos.toNat = d.nanos := by
  have hnanos := d.nanos_lt
  have hsecond := two_mul_nanosPerSecond_lt
  exact UInt32.toNat_ofNat_of_lt' (by omega)

private theorem map_words_mk? (seconds nanos : Nat) : (mk? seconds nanos).map words =
    (fits? UInt64.size (seconds + nanos / nanosPerSecond)).map fun seconds =>
      ⟨.ofNat seconds, .ofNat (nanos % nanosPerSecond)⟩ := by
  unfold mk? fits?
  split <;> rfl

/-- The words run over just where the sum is no duration. -/
theorem add?_words (a b : Duration) : a.words.add? b.words = (a.add? b).map words := by
  have ha := a.nanos_lt
  have hb := b.nanos_lt
  have hsecond := two_mul_nanosPerSecond_lt
  have hnanos : a.nanos + b.nanos < UInt32.size := by omega
  rw [Words.add?, add?, map_words_mk?, toNat_seconds_words, toNat_seconds_words, toNat_nanos_words,
    toNat_nanos_words]
  generalize a.seconds + b.seconds = seconds
  by_cases hfits : seconds < UInt64.size
  case neg =>
    have hmore : ¬seconds + (a.nanos + b.nanos) / nanosPerSecond < UInt64.size :=
      fun h => hfits (Nat.lt_of_le_of_lt (Nat.le_add_right _ _) h)
    rw [fits?_of_not_lt hfits, fits?_of_not_lt hmore]
    rfl
  case pos =>
    rw [bind_fits? hfits, bind_fits? hnanos]
    split
    case isTrue hsmall =>
      rw [Nat.div_eq_of_lt hsmall, Nat.mod_eq_of_lt hsmall, Nat.add_zero, fits?_of_lt hfits]
      rfl
    case isFalse hlarge =>
      have hcarry : (a.nanos + b.nanos) / nanosPerSecond = 1 := by
        unfold nanosPerSecond at *
        omega
      have hrest : (a.nanos + b.nanos) % nanosPerSecond = a.nanos + b.nanos - nanosPerSecond := by
        unfold nanosPerSecond at *
        omega
      rw [hcarry, hrest]
      exact Option.map_eq_bind.symm

/-- The quotient of the nanoseconds and that of what is left of both parts make up the whole. -/
theorem nanos_div (d : Duration) {n : Nat} (hn : 0 < n) : (d.div n).nanos =
    d.nanos / n + (d.seconds % n * nanosPerSecond + d.nanos % n) / n := by
  have hsplit : d.seconds % n * nanosPerSecond + d.nanos =
      n * (d.nanos / n) + (d.seconds % n * nanosPerSecond + d.nanos % n) := by
    rw [Nat.add_left_comm, Nat.div_add_mod]
  calc (d.div n).nanos
      = (d.seconds % n * nanosPerSecond + d.nanos) / n := rfl
    _ = d.nanos / n + (d.seconds % n * nanosPerSecond + d.nanos % n) / n := by
      rw [hsplit, Nat.mul_add_div hn]

/-- What is left of the seconds is below a divisor of 32 bits, so that its nanoseconds fit. -/
theorem left_lt (d : Duration) {n : Nat} (hn : 0 < n) (hsize : n < UInt32.size) :
    d.seconds % n * nanosPerSecond + d.nanos % n < UInt64.size := by
  have hleft : d.seconds % n < UInt32.size := Nat.lt_trans (Nat.mod_lt _ hn) hsize
  have hrest : d.nanos % n < nanosPerSecond := Nat.lt_of_le_of_lt (Nat.mod_le _ _) d.nanos_lt
  calc d.seconds % n * nanosPerSecond + d.nanos % n
      < d.seconds % n * nanosPerSecond + nanosPerSecond := Nat.add_lt_add_left hrest _
    _ = (d.seconds % n + 1) * nanosPerSecond := by rw [Nat.add_mul, Nat.one_mul]
    _ ≤ UInt32.size * nanosPerSecond := Nat.mul_le_mul_right _ hleft
    _ ≤ UInt64.size := by decide

theorem words_div (d : Duration) {n : UInt32} (hn : 0 < n.toNat) : (d.div n.toNat).words =
    ⟨d.words.seconds / n.toUInt64, .ofNat (d.nanos / n.toNat +
      (d.seconds % n.toNat * nanosPerSecond + d.nanos % n.toNat) / n.toNat)⟩ := by
  have hseconds : UInt64.ofNat (d.div n.toNat).seconds = d.words.seconds / n.toUInt64 := by
    apply UInt64.toNat_inj.1
    rw [UInt64.toNat_div, toNat_seconds_words, UInt32.toNat_toUInt64,
      UInt64.toNat_ofNat_of_lt' (d.div n.toNat).seconds_lt]
    rfl
  rw [words, hseconds, nanos_div d hn]

/-- A division never runs over. -/
theorem div?_words (d : Duration) {n : UInt32} (hn : n ≠ 0) :
    d.words.div? n = some (d.div n.toNat).words := by
  have hpos : 0 < n.toNat := Nat.pos_of_ne_zero fun h => hn (UInt32.toNat_inj.1 h)
  have hleft := left_lt d hpos n.toNat_lt_size
  have hwhole := Nat.lt_of_le_of_lt (Nat.le_add_right _ _) hleft
  have hnanos := Nat.lt_trans (d.div n.toNat).nanos_lt (by decide : nanosPerSecond < UInt32.size)
  rw [nanos_div d hpos] at hnanos
  have hcarried := Nat.lt_of_le_of_lt (Nat.le_add_left _ _) hnanos
  rw [words_div d hpos, Words.div?, if_neg hn, toNat_seconds_words, toNat_nanos_words,
    bind_fits? hwhole, bind_fits? hleft, bind_fits? hcarried, bind_fits? hnanos]
  rfl

end Duration
end PlaybackRelay

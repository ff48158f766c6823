import Mathlib.Algebra.Group.Int.Defs
import Mathlib.Data.List.Forall2
import PlaybackRelay.Event.Enrichment
import PlaybackRelay.Proofs.Json.Clamp

/-!
What bringing integers into range makes of a payload. Nothing changes but the texts of numbers that
have neither a point nor an exponent and that denote an integer beyond 64 bits; each of those then
denotes the nearest bound. Main statement: `clamped_integers`.
-/
namespace PlaybackRelay

namespace Text

/-- The number that a text of digits denotes. -/
def natural? (cs : List Char) : Option Nat :=
  if cs ≠ [] ∧ cs.all Char.isDigit then some (Nat.ofDigitChars 10 cs 0) else none

/-- The integer that a text denotes: digits, with or without a minus in front. -/
def integer? : List Char → Option Int
  | '-' :: digits => (natural? digits).map fun n : Nat => -(n : Int)
  | digits => (natural? digits).map fun n : Nat => (n : Int)

theorem isDigit_of_mem_decimal {n : Nat} {c : Char} (h : c ∈ decimal n) : c.isDigit = true :=
  Nat.isDigit_of_mem_toDigits (by decide) (by decide) h

theorem natural?_decimal (n : Nat) : natural? (decimal n) = some n := by
  have hdigits : (decimal n).all Char.isDigit = true :=
    List.all_eq_true.2 fun _ hc => isDigit_of_mem_decimal hc
  rw [natural?, if_pos ⟨Nat.toDigits_ne_nil, hdigits⟩, decimal,
    Nat.ofDigitChars_toDigits (by decide) (by decide)]

private theorem integer?_decimal (n : Nat) : integer? (decimal n) = some (n : Int) := by
  have hread := natural?_decimal n
  unfold integer?
  split
  · rename_i digits hminus
    have hdigit : '-'.isDigit = true := isDigit_of_mem_decimal (hminus ▸ List.mem_cons_self)
    contradiction
  · rw [hread, Option.map_some]

private theorem integer?_minus_decimal (n : Nat) :
    integer? ('-' :: decimal n) = some (-(n : Int)) := by
  rw [integer?, natural?_decimal, Option.map_some]

end Text

namespace Json

namespace Number

/-- A number whose text has a point or an exponent is none of the integers. -/
def IsMarked (n : Number) : Prop := '.' ∈ n.text ∨ 'e' ∈ n.text ∨ 'E' ∈ n.text

variable {n : Number} {i : Int}

theorem text_of_int? (h : n.int? = some i) :
    n.text = (if n.negative then ['-'] else []) ++ Text.decimal n.whole ∧
      i = if n.negative then -(n.whole : Int) else n.whole := by
  unfold int? at h
  split at h
  · rename_i hfraction hexponent
    refine ⟨?_, (Option.some.inj h).symm⟩
    rw [text_eq, hfraction, hexponent]
    simp [fractionText, exponentText]
  · contradiction

theorem integer?_text (h : n.int? = some i) : Text.integer? n.text = some i := by
  obtain ⟨htext, rfl⟩ := text_of_int? h
  rw [htext]
  cases n.negative with
  | true => exact Text.integer?_minus_decimal n.whole
  | false => exact Text.integer?_decimal n.whole

private theorem not_isMarked_of_int? (h : n.int? = some i) : ¬n.IsMarked := by
  obtain ⟨htext, -⟩ := text_of_int? h
  have hplain : ∀ c ∈ n.text, c = '-' ∨ c.isDigit = true := by
    intro c hc
    rw [htext] at hc
    rcases List.mem_append.1 hc with hc | hc
    · split at hc
      · exact Or.inl (List.mem_singleton.1 hc)
      · contradiction
    · exact Or.inr (Text.isDigit_of_mem_decimal hc)
  rintro (hmark | hmark | hmark) <;> exact absurd (hplain _ hmark) (by decide)

private theorem isMarked_of_int?_eq_none (h : n.int? = none) : n.IsMarked := by
  obtain ⟨negative, whole, fraction, exponent⟩ := n
  unfold IsMarked
  rw [text_eq]
  cases fraction with
  | some d => exact Or.inl (by simp [fractionText])
  | none =>
    cases exponent with
    | some e => exact Or.inr (Or.inl (by simp [exponentText, Exponent.text]))
    | none => contradiction

/-- What may stand in place of a number: the number itself, or the nearest bound if it denotes an
integer beyond 64 bits. -/
inductive Clamped : Number → Number → Prop where
  | marked {n : Number} : n.IsMarked → Clamped n n
  | integer {n m : Number} {i : Int} : ¬n.IsMarked → Text.integer? n.text = some i →
      Text.integer? m.text = some (max (-2 ^ 63) (min i (2 ^ 63 - 1))) →
      (-2 ^ 63 ≤ i → i ≤ 2 ^ 63 - 1 → m = n) → Clamped n m

private theorem clamp_of_int?_eq_none (h : n.int? = none) : n.clamp = n := by
  rw [clamp, bound?, h, Option.getD_none]

theorem clamp_of_int?_eq_some (h : n.int? = some i) : n.clamp =
    if i < -2 ^ 63 then ofInt (-2 ^ 63) else if 2 ^ 63 - 1 < i then ofInt (2 ^ 63 - 1) else n := by
  have hleast : Int64.minValue.toInt = -2 ^ 63 := by decide
  have hmost : Int64.maxValue.toInt = 2 ^ 63 - 1 := by decide
  rw [clamp, bound?, h]
  simp only [hleast, hmost]
  split
  · rfl
  · split <;> rfl

theorem clamped_clamp (n : Number) : Clamped n n.clamp := by
  cases hint : n.int? with
  | none =>
    rw [clamp_of_int?_eq_none hint]
    exact .marked (isMarked_of_int?_eq_none hint)
  | some i =>
    have hread := integer?_text hint
    refine .integer (not_isMarked_of_int? hint) hread ?_ fun hleast hmost => ?_
    · rw [clamp_of_int?_eq_some hint]
      split
      · have hnearest : max (-2 ^ 63) (min i (2 ^ 63 - 1)) = -2 ^ 63 := by omega
        rw [hnearest, integer?_text (int?_ofInt _)]
      · split
        · have hnearest : max (-2 ^ 63) (min i (2 ^ 63 - 1)) = 2 ^ 63 - 1 := by omega
          rw [hnearest, integer?_text (int?_ofInt _)]
        · have hnearest : max (-2 ^ 63) (min i (2 ^ 63 - 1)) = i := by omega
          rw [hnearest, hread]
    · rw [clamp_of_int?_eq_some hint, if_neg (by omega), if_neg (by omega)]

/-- Minus zero is in range and keeps its sign. -/
example : (Number.mk true 0 none none).clamp.text = ['-', '0'] := by decide

end Number

/-- Both values have the same shape, with the same names, and differ in numbers alone. -/
inductive Clamped : Json → Json → Prop where
  | null : Clamped .null .null
  | bool (b : Bool) : Clamped (.bool b) (.bool b)
  | number {n m : Number} : n.Clamped m → Clamped (.number n) (.number m)
  | string (s : String) : Clamped (.string s) (.string s)
  | array {items items' : List Json} : List.Forall₂ Clamped items items' →
      Clamped (.array items) (.array items')
  | object {ms ms' : Members} : ms.map Prod.fst = ms'.map Prod.fst →
      List.Forall₂ Clamped (ms.map Prod.snd) (ms'.map Prod.snd) → Clamped (.object ms) (.object ms')

theorem clamped_clamp (v : Json) : v.Clamped v.clamp := by
  induction v using inductionOn with
  | null => exact .null
  | bool b => exact .bool b
  | number n => exact .number n.clamped_clamp
  | string s => exact .string s
  | array items ih =>
    rw [clamp, clampItems_eq_map]
    exact .array (List.forall₂_map_right_iff.2 (List.forall₂_same.2 ih))
  | object ms ih =>
    rw [clamp, clampMembers_eq_map]
    refine .object (by simp [Function.comp_def]) ?_
    rw [List.map_map, List.forall₂_map_left_iff, List.forall₂_map_right_iff, List.forall₂_same]
    exact ih

end Json

/-- Whatever the depth, an integer beyond 64 bits gives way to the nearest bound, and all else
stays. -/
theorem Enrichment.clamped_integers (data : Payload) :
    Json.Clamped (.object data) (.object (Enrichment.integers.run data)) :=
  Json.clamped_clamp (.object data)

end PlaybackRelay

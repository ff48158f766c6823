import PlaybackRelay.Proofs.Duration
import PlaybackRelay.Proofs.Payload.Integers
import PlaybackRelay.Settings.Basic

/-!
What the text of a variable has to be, for each kind of variable: any text, a name that is not
empty, a flag, or a number below a limit in decimal digits. Main statements: `decimal?_eq_some_iff`
and one lemma of `Recognizes` for each reader of values.
-/
namespace PlaybackRelay.Settings

/-- A text of decimal digits, with or without a plus in front, denotes a number. -/
inductive Denotes (n : Nat) : List Char → Prop where
  | plain {digits : List Char} (h : Text.natural? digits = some n) : Denotes n digits
  | signed {digits : List Char} (h : Text.natural? digits = some n) : Denotes n ('+' :: digits)

/-- What the value of a variable is. -/
inductive Kind where
  | text
  | name
  | flag
  | number (limit : Nat)
deriving DecidableEq, Repr

/-- The texts that are a value of a kind. -/
def Kind.Accepts : Kind → String → Prop
  | .text, _ => True
  | .name, written => written ≠ ""
  | .flag, written => written = "true" ∨ written = "false"
  | .number limit, written => ∃ n < limit, Denotes n written.toList

section Decimal

variable {cs : List Char} {text : String} {limit n : Nat}

/-- The text behind a plus, if there is one. -/
def unsigned : List Char → List Char
  | '+' :: rest => rest
  | cs => cs

theorem natural?_plus (cs : List Char) : Text.natural? ('+' :: cs) = none := by
  apply if_neg
  rintro ⟨-, hdigits⟩
  have hplus : '+'.isDigit = true := List.all_eq_true.1 hdigits _ List.mem_cons_self
  contradiction

theorem denotes_iff : Denotes n cs ↔ Text.natural? (unsigned cs) = some n := by
  constructor
  · intro h
    cases h with
    | plain h =>
      unfold unsigned
      split
      · rw [natural?_plus] at h
        contradiction
      · exact h
    | signed h => exact h
  · intro h
    unfold unsigned at h
    split at h
    · exact .signed h
    · exact .plain h

theorem decimal?_eq (limit : Nat) (text : String) :
    decimal? limit text = (Text.natural? (unsigned text.toList)).filter (· < limit) := by
  -- The fold over the digits is the one that the value of digits is defined by.
  change (if (unsigned text.toList).isEmpty ∨ !(unsigned text.toList).all Char.isDigit then none
    else if Nat.ofDigitChars 10 (unsigned text.toList) 0 < limit then
      some (Nat.ofDigitChars 10 (unsigned text.toList) 0)
    else none) = _
  generalize unsigned text.toList = digits
  rw [Text.natural?, ← ite_not]
  have hiff : ¬(digits.isEmpty ∨ !digits.all Char.isDigit) ↔
      digits ≠ [] ∧ digits.all Char.isDigit := by
    simp
  simp only [hiff]
  split
  · simp [Option.filter]
  · rfl

theorem decimal?_eq_some_iff :
    decimal? limit text = some n ↔ Denotes n text.toList ∧ n < limit := by
  rw [decimal?_eq, Option.filter_eq_some_iff, denotes_iff, decide_eq_true_eq]

end Decimal

/-- A reader of values recognizes just the texts of a kind. -/
def Recognizes {α : Type} (value? : String → Option α) (kind : Kind) : Prop :=
  ∀ text, (value? text).isSome ↔ kind.Accepts text

theorem recognizes_some : Recognizes some .text := fun _ => iff_of_true rfl trivial

theorem recognizes_nonempty? : Recognizes nonempty? .name := by
  intro text
  unfold nonempty? Kind.Accepts
  by_cases hempty : text = ""
  · simp [hempty]
  · simp [hempty]

theorem recognizes_bool? : Recognizes bool? .flag := by
  intro text
  unfold bool? Kind.Accepts
  by_cases htrue : text = "true"
  · simp [htrue]
  · by_cases hfalse : text = "false"
    · simp [hfalse]
    · simp [htrue, hfalse]

theorem recognizes_decimal? (limit : Nat) : Recognizes (decimal? limit) (.number limit) := by
  intro text
  simp only [Option.isSome_iff_exists, decimal?_eq_some_iff, Kind.Accepts, and_comm]

theorem Recognizes.map {α β : Type} {value? : String → Option α} {kind : Kind}
    (h : Recognizes value? kind) (f : α → β) : Recognizes (fun text => (value? text).map f) kind :=
  fun text => by rw [Option.isSome_map, h text]

theorem recognizes_uint16? : Recognizes uint16? (.number UInt16.size) :=
  (recognizes_decimal? _).map _

theorem recognizes_uint32? : Recognizes uint32? (.number UInt32.size) :=
  (recognizes_decimal? _).map _

theorem recognizes_uint64? : Recognizes uint64? (.number UInt64.size) :=
  (recognizes_decimal? _).map _

theorem recognizes_duration? : Recognizes duration? (.number UInt64.size) :=
  recognizes_uint64?.map _

section Zero

variable {text : String} {n : UInt64} {d : Duration}

theorem denotes_of_uint64? (h : uint64? text = some n) : Denotes n.toNat text.toList := by
  obtain ⟨m, hm, rfl⟩ := Option.map_eq_some_iff.1 h
  obtain ⟨hdenotes, hlt⟩ := decimal?_eq_some_iff.1 hm
  have htoNat : m.toUInt64.toNat = m := UInt64.toNat_ofNat_of_lt' hlt
  rwa [htoNat]

theorem Denotes.inj {m k : Nat} {cs : List Char} (hm : Denotes m cs) (hk : Denotes k cs) : m = k :=
  Option.some.inj ((denotes_iff.1 hm).symm.trans (denotes_iff.1 hk))

theorem eq_zero_iff_of_uint64? (h : uint64? text = some n) : n = 0 ↔ Denotes 0 text.toList := by
  have hdenotes := denotes_of_uint64? h
  constructor
  · rintro rfl
    exact hdenotes
  · intro hzero
    exact UInt64.toNat_inj.1 (hdenotes.inj hzero)

theorem isZero_iff_of_duration? (h : duration? text = some d) :
    d.isZero ↔ Denotes 0 text.toList := by
  obtain ⟨ms, hms, rfl⟩ := Option.map_eq_some_iff.1 h
  have hmillis : nanosPerMilli ≠ 0 := by decide
  rw [← eq_zero_iff_of_uint64? hms, Duration.isZero_iff, Duration.toNanos_ofMillis,
    Nat.mul_eq_zero, or_iff_left hmillis, ← UInt64.toNat_inj]
  rfl

end Zero

end PlaybackRelay.Settings

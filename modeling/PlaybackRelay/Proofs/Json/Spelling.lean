import PlaybackRelay.Proofs.Json.Source
import PlaybackRelay.Proofs.Json.Text
import PlaybackRelay.Proofs.Json.WellFormed

/-!
The scanners read strings and numbers however they are spelled, and read nothing else. Main
statements: `yields_scanText`, `exists_body_of_scanString`, `scanNumber_token` and
`exists_token_of_scanNumber`.
-/
namespace PlaybackRelay.Json

open Text.Utf16 (isHighSurrogate isLowSurrogate ofSurrogates)

/-- A reader returns the value if there is one, and a fault if there is none. -/
inductive Yields {α : Type} : Option α → Except Fault α → Prop
  | ok (a : α) : Yields (some a) (.ok a)
  | error (fault : Fault) : Yields none (.error fault)

namespace Yields

variable {α β : Type} {value : Option α} {result : Except Fault α}

theorem map (h : Yields value result) (f : α → β) : Yields (value.map f) (result.map f) := by
  cases h with
  | ok a => exact .ok (f a)
  | error fault => exact .error fault

/-- What is handed on if a value is found. -/
theorem bind {γ : Type} {f : α → γ} {result : Except Fault γ} {next : α → Option β}
    {read : γ → Except Fault β} (h : Yields (value.map f) result)
    (hnext : ∀ a, value = some a → Yields (next a) (read (f a))) :
    Yields (value.bind next) (result >>= read) := by
  cases value with
  | none =>
    cases h with
    | error fault => exact .error fault
  | some a =>
    cases h
    exact hnext a rfl

theorem eq_ok {a : α} (h : Yields (some a) result) : result = .ok a := by
  cases h
  rfl

theorem exists_eq_error (h : Yields none result) : ∃ fault, result = .error fault := by
  cases h with
  | error fault => exact ⟨fault, rfl⟩

theorem eq_some {a : α} (h : Yields value (.ok a)) : value = some a := by
  cases h
  rfl

end Yields

section Strings

variable {kept : Bool} {done cs rest : List Char} {s : String}

theorem scanString_plain {c : Char} (h : c ≠ '"' ∧ c ≠ '\\' ∧ 0x20 ≤ c.toNat) :
    scanString kept .plain done (c :: cs) = scanString kept .plain (c :: done) cs := by
  obtain ⟨hquote, hbackslash, hcontrol⟩ := h
  simp [scanString, hquote, hbackslash, Nat.not_lt.2 hcontrol]

theorem ne_of_simpleEscape? {letter c : Char} (h : simpleEscape? letter = some c) :
    letter ≠ 'u' := by
  rintro rfl
  contradiction

/-- What becomes of a code unit once its last digit is read. -/
theorem scanString_digits (high : Option Nat) (hex : HexCode) :
    scanString kept (.hex high 4 0) done (hex.digits.map HexDigit.char ++ cs) =
      match high with
      | some h =>
        if isLowSurrogate hex.unit then
          scanString kept .plain (ofSurrogates h hex.unit :: done) cs
        else .error .malformed
      | none =>
        if isHighSurrogate hex.unit ∧ kept then scanString kept (.pairSlash hex.unit) done cs
        else if isLowSurrogate hex.unit ∧ kept then .error .malformed
        else scanString kept .plain ((if isHighSurrogate hex.unit ∨ isLowSurrogate hex.unit then
          '\ufffd' else Char.ofNat hex.unit) :: done) cs := by
  obtain ⟨⟨a, va, ha⟩, ⟨b, vb, hb⟩, ⟨c, vc, hc⟩, ⟨d, vd, hd⟩⟩ := hex
  cases high <;> simp [scanString, HexCode.digits, HexCode.unit, ha, hb, hc, hd]

theorem hasFourBytes_digits (hex : HexCode) (cs : List Char) :
    hasFourBytes (hex.digits.map HexDigit.char ++ cs) = true :=
  hasFourBytes_append cs

theorem scanString_code (hex : HexCode) :
    scanString kept .plain done (StringPart.text (.code hex) ++ cs) =
      scanString kept (.hex none 4 0) done (hex.digits.map HexDigit.char ++ cs) := by
  simp [scanString, StringPart.text, hasFourBytes_digits]

private theorem scanString_pairSlash_code (high : Nat) (hex : HexCode) :
    scanString kept (.pairSlash high) done (StringPart.text (.code hex) ++ cs) =
      scanString kept (.hex (some high) 4 0) done (hex.digits.map HexDigit.char ++ cs) := by
  simp [scanString, StringPart.text, hasFourBytes_digits]

theorem body_cons (part : StringPart) (parts : StringToken) :
    StringToken.body (part :: parts) = part.text ++ parts.body := rfl

/-- What a string becomes if some of its characters, in reverse, were read before. -/
def finished (done rest cs : List Char) : Scanned String :=
  (String.ofList (done.reverse ++ cs), rest)

theorem map_finished_cons (chars : Option (List Char)) (c : Char) (done rest : List Char) :
    (chars.map (c :: ·)).map (finished done rest) = chars.map (finished (c :: done) rest) := by
  cases chars with
  | none => rfl
  | some cs => simp [finished]

/-- Where the scanner stands between two parts of a string. -/
def betweenParts : Option Nat → StringState
  | none => .plain
  | some high => .pairSlash high

private theorem yields_scanString_body (high : Option Nat) (parts : StringToken)
    (done rest : List Char) :
    Yields ((parts.chars? high).map (finished done rest))
      (scanString true (betweenParts high) done (parts.body ++ '"' :: rest)) := by
  induction parts generalizing high done with
  | nil =>
    cases high with
    | none =>
      have hclose : scanString true .plain done ('"' :: rest) = .ok (finished done rest []) := by
        simp [scanString, finished]
      exact hclose ▸ .ok _
    | some high => exact .error _
  | cons part parts ih =>
    rw [body_cons, List.append_assoc]
    cases high with
    | none =>
      rw [betweenParts]
      cases part with
      | plain c h =>
        rw [StringToken.chars?, map_finished_cons, StringPart.text, List.singleton_append,
          scanString_plain h]
        exact ih none (c :: done)
      | short letter c h =>
        rw [StringToken.chars?, map_finished_cons, StringPart.text, List.cons_append,
          List.singleton_append, scanString_escape (ne_of_simpleEscape? h) h]
        exact ih none (c :: done)
      | code hex =>
        rw [StringToken.chars?, scanString_code, scanString_digits]
        by_cases hhigh : isHighSurrogate hex.unit = true
        · simp only [hhigh, and_self, if_true]
          exact ih (some hex.unit) done
        · by_cases hlow : isLowSurrogate hex.unit = true
          · simp only [hhigh, hlow, Bool.false_eq_true, and_self, false_and, if_true, if_false]
            exact .error _
          · simp only [hhigh, hlow, Bool.false_eq_true, false_and, or_self, if_false,
              map_finished_cons]
            exact ih none _
    | some high =>
      rw [betweenParts]
      -- Nothing but another code unit may follow the first half of a pair.
      cases part with
      | plain c h =>
        simp only [StringPart.text, List.singleton_append, scanString, h.2.1, if_false]
        exact .error _
      | short letter c h =>
        simp only [StringPart.text, List.cons_append, scanString, ne_of_simpleEscape? h, ne_eq,
          not_false_eq_true, if_true]
        exact .error _
      | code hex =>
        rw [StringToken.chars?, scanString_pairSlash_code, scanString_digits]
        by_cases hlow : isLowSurrogate hex.unit = true
        · simp only [hlow, if_true, map_finished_cons]
          exact ih none _
        · simp only [hlow]
          exact .error _

theorem yields_scanText (parts : StringToken) (rest : List Char) :
    Yields (parts.value?.map (·, rest)) (scanText (parts.body ++ '"' :: rest)) := by
  have h := yields_scanString_body none parts [] rest
  have hvalue : (parts.chars? none).map (finished [] rest) = parts.value?.map (·, rest) := by
    rw [StringToken.value?, Option.map_map]
    rfl
  rwa [hvalue] at h

/-- A string that nobody wants is passed over, whatever its escapes. -/
theorem exists_scanString_body (parts : StringToken) (done rest : List Char) :
    ∃ s, scanString false .plain done (parts.body ++ '"' :: rest) = .ok (s, rest) := by
  induction parts generalizing done with
  | nil => exact ⟨_, rfl⟩
  | cons part parts ih =>
    rw [body_cons, List.append_assoc]
    cases part with
    | plain c h =>
      rw [StringPart.text, List.singleton_append, scanString_plain h]
      exact ih _
    | short letter c h =>
      rw [StringPart.text, List.cons_append, List.singleton_append,
        scanString_escape (ne_of_simpleEscape? h) h]
      exact ih _
    | code hex =>
      rw [scanString_code, scanString_digits]
      simp only [Bool.false_eq_true, and_false, if_false]
      exact ih _

/-- What is left of a string and of the text behind it, wherever the scanner stands. -/
def Unread (rest : List Char) : StringState → List Char → Prop
  | .plain, cs | .pairSlash _, cs => ∃ parts : StringToken, cs = parts.body ++ '"' :: rest
  | .escape, cs | .pairLetter _, cs =>
    ∃ parts : StringToken, '\\' :: cs = parts.body ++ '"' :: rest
  | .hex _ left _, cs =>
    0 < left → ∃ (digits : List HexDigit) (parts : StringToken), digits.length = left ∧
      cs = digits.map HexDigit.char ++ (parts.body ++ '"' :: rest)

theorem exists_hexCode {digits : List HexDigit} (h : digits.length = 4) :
    ∃ hex : HexCode, hex.digits = digits := by
  match digits, h with
  | [a, b, c, d], _ => exact ⟨⟨a, b, c, d⟩, rfl⟩

/-- The escape of a code unit with its four digits. -/
theorem exists_body_of_digits {high : Option Nat} (h : Unread rest (.hex high 4 0) cs) :
    ∃ parts : StringToken, '\\' :: 'u' :: cs = parts.body ++ '"' :: rest := by
  obtain ⟨digits, parts, hlength, rfl⟩ := h (by decide)
  obtain ⟨hex, rfl⟩ := exists_hexCode hlength
  exact ⟨.code hex :: parts, by simp [body_cons, StringPart.text]⟩

private theorem unread_of_scanString {state : StringState}
    (h : scanString kept state done cs = .ok (s, rest)) : Unread rest state cs := by
  induction cs generalizing state done with
  | nil => cases state <;> simp [scanString] at h
  | cons c cs ih =>
    cases state with
    | plain =>
      rw [scanString] at h
      split at h
      · rename_i hquote
        rw [closeString_characters] at h
        obtain ⟨-, rfl⟩ := Prod.mk.inj (Except.ok.inj h)
        exact ⟨[], by rw [hquote]; rfl⟩
      split at h
      · rename_i hbackslash
        rw [hbackslash]
        exact ih h
      split at h
      · contradiction
      · rename_i hquote hbackslash hcontrol
        obtain ⟨parts, rfl⟩ := ih h
        exact ⟨.plain c ⟨hquote, hbackslash, Nat.not_lt.1 hcontrol⟩ :: parts, rfl⟩
    | escape =>
      rw [scanString] at h
      split at h
      · rename_i hletter
        split at h
        · rw [hletter]
          exact exists_body_of_digits (ih h)
        · contradiction
      · split at h
        · rename_i x hx
          obtain ⟨parts, rfl⟩ := ih h
          exact ⟨.short c x hx :: parts, rfl⟩
        · contradiction
    | pairSlash high =>
      rw [scanString] at h
      split at h
      · rename_i hbackslash
        rw [hbackslash]
        exact ih h
      · contradiction
    | pairLetter high =>
      rw [scanString] at h
      split at h
      · contradiction
      · rename_i hletter
        split at h
        · rw [not_not.1 hletter]
          exact exists_body_of_digits (ih h)
        · contradiction
    | hex high left value =>
      intro hleft
      rw [scanString] at h
      split at h
      · contradiction
      rename_i d hd
      split at h
      · rename_i hmore
        obtain ⟨digits, parts, hlength, rfl⟩ := ih h (by omega)
        exact ⟨⟨c, d, hd⟩ :: digits, parts, by rw [List.length_cons]; omega, rfl⟩
      · rename_i hlast
        -- Whatever the unit is, the string goes on behind its last digit.
        have hparts : ∃ parts : StringToken, cs = parts.body ++ '"' :: rest := by
          split at h <;> dsimp only at h
          · split at h
            · exact ih h
            · contradiction
          · split at h
            · exact ih h
            · split at h
              · contradiction
              · exact ih h
        obtain ⟨parts, rfl⟩ := hparts
        exact ⟨[⟨c, d, hd⟩], parts, by rw [List.length_singleton]; omega, rfl⟩

theorem exists_body_of_scanString (h : scanString kept .plain done cs = .ok (s, rest)) :
    ∃ parts : StringToken, cs = parts.body ++ '"' :: rest := unread_of_scanString h

theorem exists_token_of_scanText (h : scanText cs = .ok (s, rest)) :
    ∃ parts : StringToken, parts.value? = some s ∧ cs = parts.body ++ '"' :: rest := by
  obtain ⟨parts, rfl⟩ := exists_body_of_scanString h
  have hyields := yields_scanText parts rest
  rw [h] at hyields
  obtain ⟨s', hvalue, heq⟩ := Option.map_eq_some_iff.1 hyields.eq_some
  exact ⟨parts, (Prod.mk.inj heq).1 ▸ hvalue, rfl⟩

end Strings

section Numbers

variable {cut : Fault} {cs rest : List Char}

private theorem digitChar_ne_plus : ∀ d : Fin 10, Digits.digitChar d ≠ '+' := by decide

private theorem scanExponent_unsigned (cut : Fault) {letter : Char}
    (hletter : letter = 'e' ∨ letter = 'E') (d : Digits) (h : NoDigitFirst rest) :
    scanExponent cut (letter :: (d.text ++ rest)) = .ok (some ⟨false, d⟩, rest) := by
  have hdigits := scanSomeDigits_append cut d h
  have hminus := digitChar_ne_minus d.first
  have hplus := digitChar_ne_plus d.first
  rw [Digits.text, Digits.toList, List.map_cons, List.cons_append] at hdigits ⊢
  rw [scanExponent, if_pos hletter]
  · rw [hdigits]
    rfl
  · exact fun _ hsign => hminus (List.cons.inj hsign).1
  · exact fun _ hsign => hplus (List.cons.inj hsign).1

private theorem scanExponent_spelled (cut : Fault) {letter : Char}
    (hletter : letter = 'e' ∨ letter = 'E') (plus : Bool) (exponent : Option Exponent)
    (h : Delimited rest) :
    scanExponent cut (spellExponent letter plus exponent ++ rest) = .ok (exponent, rest) := by
  cases exponent with
  | none => exact scanExponent_of_delimited cut h
  | some e =>
    obtain ⟨negative, digits⟩ := e
    have hdigits := scanSomeDigits_append cut digits h.noDigitFirst
    cases negative with
    | true => simp [spellExponent, scanExponent, hletter, hdigits, Except.map]
    | false =>
      cases plus with
      | true => simp [spellExponent, scanExponent, hletter, hdigits, Except.map]
      | false => exact scanExponent_unsigned cut hletter digits h.noDigitFirst

private theorem noFractionFirst_spellExponent {letter : Char}
    (hletter : letter = 'e' ∨ letter = 'E') (plus : Bool) (exponent : Option Exponent)
    (h : Delimited rest) :
    NoFractionFirst (spellExponent letter plus exponent ++ rest) := by
  cases exponent with
  | none => exact fun c hc => ⟨(h c hc).1, (h c hc).2.1⟩
  | some e =>
    refine noFractionFirst_cons ?_ _
    rcases hletter with rfl | rfl <;> decide

theorem scanNumber_token (cut : Fault) (t : NumberToken) (h : Delimited rest) :
    scanNumber cut (t.text ++ rest) = .ok (t.number, rest) := by
  have hparts := scanNumber_parts cut t.number.negative t.number.whole t.number.fraction
    (noFractionFirst_spellExponent t.isLetter t.plus t.number.exponent h)
    (scanExponent_spelled cut t.isLetter t.plus t.number.exponent h)
  rw [NumberToken.text]
  simpa only [List.append_assoc] using hparts

/-- A number begins with its sign or with a digit. -/
theorem NumberToken.exists_text_eq_cons (t : NumberToken) :
    ∃ (c : Char) (cs : List Char), t.text = c :: cs ∧ (c = '-' ∨ (digit? c).isSome) := by
  obtain ⟨d, cs, hdecimal⟩ := exists_decimal_eq_cons t.number.whole
  rw [NumberToken.text]
  cases t.number.negative with
  | true => exact ⟨'-', _, rfl, Or.inl rfl⟩
  | false =>
    refine ⟨Digits.digitChar d, cs ++ (fractionText t.number.fraction ++
      spellExponent t.letter t.plus t.number.exponent), ?_, Or.inr (by simp [digit?_digitChar])⟩
    simp [hdecimal]

theorem eq_digitChar_of_digit? {c : Char} {d : Fin 10} (h : digit? c = some d) :
    c = Digits.digitChar d := by
  unfold digit? at h
  split at h
  · rename_i hrange
    obtain rfl := Option.some.inj h
    rw [Digits.digitChar, Nat.add_sub_cancel' hrange.1, Char.ofNat_toNat]
  · contradiction

theorem eq_of_scanDigits {ds : List (Fin 10)} (h : scanDigits cs = (ds, rest)) :
    cs = ds.map Digits.digitChar ++ rest := by
  induction cs generalizing ds with
  | nil =>
    obtain ⟨rfl, rfl⟩ := Prod.mk.inj h
    rfl
  | cons c cs ih =>
    rw [scanDigits] at h
    split at h
    · rename_i d hd
      obtain ⟨rfl, hrest⟩ := Prod.mk.inj h
      rw [List.map_cons, List.cons_append, ← eq_digitChar_of_digit? hd, ← ih (by rw [← hrest])]
    · obtain ⟨rfl, rfl⟩ := Prod.mk.inj h
      rfl

theorem eq_of_scanSomeDigits {d : Digits} (h : scanSomeDigits cut cs = .ok (d, rest)) :
    cs = d.text ++ rest := by
  unfold scanSomeDigits at h
  split at h
  · rename_i first others rest' hdigits
    obtain ⟨rfl, rfl⟩ := Prod.mk.inj (Except.ok.inj h)
    exact eq_of_scanDigits hdigits
  · contradiction
  · contradiction

/-- A digit behind a number is its last one. -/
theorem decimal_append_digit {n : Nat} (hn : 0 < n) (d : Fin 10) :
    Text.decimal (10 * n + d.val) = Text.decimal n ++ [Digits.digitChar d] := by
  have hquotient : (10 * n + d.val) / 10 = n := by omega
  have hlast : (10 * n + d.val) % 10 = d.val := by omega
  rw [Text.decimal, Nat.toDigits_of_base_le (by decide) (by omega), hquotient, hlast,
    natDigitChar_eq, Text.decimal]

private theorem decimal_foldl (ds : List (Fin 10)) {n : Nat} (hn : 0 < n) :
    Text.decimal (ds.foldl (fun n x => 10 * n + x.val) n) =
      Text.decimal n ++ ds.map Digits.digitChar := by
  induction ds generalizing n with
  | nil => simp
  | cons d ds ih =>
    rw [List.foldl_cons, ih (by omega), decimal_append_digit hn, List.append_assoc,
      List.singleton_append, List.map_cons]

private theorem decimal_digit (d : Fin 10) : Text.decimal d.val = [Digits.digitChar d] := by
  rw [Text.decimal, Nat.toDigits_of_lt_base d.isLt, natDigitChar_eq]

private theorem eq_of_scanWhole {n : Nat} (h : scanWhole cut cs = .ok (n, rest)) :
    cs = Text.decimal n ++ rest := by
  unfold scanWhole at h
  split at h
  · contradiction
  · rename_i c cs
    split at h
    · contradiction
    · rename_i hzero
      rw [eq_digitChar_of_digit? hzero]
      split at h
      · split at h
        · contradiction
        · obtain ⟨rfl, rfl⟩ := Prod.mk.inj (Except.ok.inj h)
          rfl
      · obtain ⟨rfl, rfl⟩ := Prod.mk.inj (Except.ok.inj h)
        rfl
    · rename_i d hne hd
      have hpos : 0 < d.val := Nat.pos_of_ne_zero fun hval => hne (Fin.ext hval)
      obtain ⟨rfl, hrest⟩ := Prod.mk.inj (Except.ok.inj h)
      rw [List.foldl_cons, Nat.mul_zero, Nat.zero_add, decimal_foldl _ hpos, decimal_digit,
        eq_digitChar_of_digit? hd, List.append_assoc, ← eq_of_scanDigits (by rw [← hrest])]
      rfl

private theorem eq_of_scanFraction {fraction : Option Digits}
    (h : scanFraction cut cs = .ok (fraction, rest)) : cs = fractionText fraction ++ rest := by
  unfold scanFraction at h
  split at h
  · obtain ⟨⟨d, rest'⟩, hdigits, heq⟩ := map_eq_ok.1 h
    obtain ⟨rfl, rfl⟩ := Prod.mk.inj heq
    rw [eq_of_scanSomeDigits hdigits]
    rfl
  · obtain ⟨rfl, rfl⟩ := Prod.mk.inj (Except.ok.inj h)
    rfl

private theorem exists_spelled_of_scanExponent {exponent : Option Exponent}
    (h : scanExponent cut cs = .ok (exponent, rest)) :
    ∃ letter plus, (letter = 'e' ∨ letter = 'E') ∧
      cs = spellExponent letter plus exponent ++ rest := by
  unfold scanExponent at h
  split at h
  · rename_i c cs
    split at h
    · rename_i hletter
      obtain ⟨⟨d, rest'⟩, hdigits, heq⟩ := map_eq_ok.1 h
      obtain ⟨rfl, rfl⟩ := Prod.mk.inj heq
      have hspelled := eq_of_scanSomeDigits hdigits
      split at hspelled
      · exact ⟨c, false, hletter, congrArg (c :: '-' :: ·) hspelled⟩
      · exact ⟨c, true, hletter, congrArg (c :: '+' :: ·) hspelled⟩
      · exact ⟨c, false, hletter, congrArg (c :: ·) hspelled⟩
    · obtain ⟨rfl, rfl⟩ := Prod.mk.inj (Except.ok.inj h)
      exact ⟨'e', false, Or.inl rfl, rfl⟩
  · obtain ⟨rfl, rfl⟩ := Prod.mk.inj (Except.ok.inj h)
    exact ⟨'e', false, Or.inl rfl, rfl⟩

theorem exists_token_of_scanNumber {n : Number} (h : scanNumber cut cs = .ok (n, rest)) :
    ∃ t : NumberToken, t.number = n ∧ cs = t.text ++ rest := by
  unfold scanNumber at h
  split at h
  rename_i negative unsigned hsign
  have hcs : cs = (if negative then ['-'] else []) ++ unsigned := by
    split at hsign
    · obtain ⟨rfl, rfl⟩ := Prod.mk.inj hsign
      rfl
    · obtain ⟨rfl, rfl⟩ := Prod.mk.inj hsign
      rfl
  obtain ⟨⟨whole, cs₁⟩, hwhole, h⟩ := bind_eq_ok.1 h
  obtain ⟨⟨fraction, cs₂⟩, hfraction, h⟩ := bind_eq_ok.1 h
  obtain ⟨⟨exponent, cs₃⟩, hexponent, h⟩ := bind_eq_ok.1 h
  obtain ⟨rfl, rfl⟩ := Prod.mk.inj (Except.ok.inj h)
  obtain ⟨letter, plus, hletter, hspelled⟩ := exists_spelled_of_scanExponent hexponent
  refine ⟨⟨_, letter, plus, hletter⟩, rfl, ?_⟩
  rw [hcs, eq_of_scanWhole hwhole, eq_of_scanFraction hfraction, hspelled, NumberToken.text]
  simp only [List.append_assoc]

end Numbers

end PlaybackRelay.Json

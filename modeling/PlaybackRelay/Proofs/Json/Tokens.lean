import PlaybackRelay.Json.Scan

/-!
Written tokens are read back: each scanner takes exactly what was written and leaves the text behind
it. A number must not be followed by what could continue it.
-/
namespace PlaybackRelay.Json

theorem skipBlanks_cons {c : Char} (h : isBlank c = false) (cs : List Char) :
    skipBlanks (c :: cs) = c :: cs := by
  simp [skipBlanks, h]

theorem digit?_digitChar : ∀ d : Fin 10, digit? (Digits.digitChar d) = some d := by decide

theorem natDigitChar_eq : ∀ d : Fin 10, Nat.digitChar d = Digits.digitChar d := by decide

/-- No digit stands in front. -/
def NoDigitFirst (rest : List Char) : Prop := ∀ c ∈ rest.head?, digit? c = none

/-- Nothing that continues a number stands in front. -/
def Delimited (rest : List Char) : Prop :=
  ∀ c ∈ rest.head?, digit? c = none ∧ c ≠ '.' ∧ c ≠ 'e' ∧ c ≠ 'E'

theorem Delimited.noDigitFirst {rest : List Char} (h : Delimited rest) : NoDigitFirst rest :=
  fun c hc => (h c hc).1

private theorem noDigitFirst_cons {c : Char} (h : digit? c = none) (rest : List Char) :
    NoDigitFirst (c :: rest) := by
  simpa [NoDigitFirst] using h

theorem delimited_nil : Delimited [] := by simp [Delimited]

theorem delimited_comma (rest : List Char) : Delimited (',' :: rest) := by
  simp only [Delimited, List.head?_cons, Option.mem_some_iff, forall_eq']
  decide

theorem delimited_bracket (rest : List Char) : Delimited (']' :: rest) := by
  simp only [Delimited, List.head?_cons, Option.mem_some_iff, forall_eq']
  decide

theorem delimited_brace (rest : List Char) : Delimited ('}' :: rest) := by
  simp only [Delimited, List.head?_cons, Option.mem_some_iff, forall_eq']
  decide

private theorem scanDigits_of_noDigitFirst {rest : List Char} (h : NoDigitFirst rest) :
    scanDigits rest = ([], rest) := by
  cases rest with
  | nil => rfl
  | cons c rest => simp [scanDigits, h c rfl]

theorem scanDigits_append (ds : List (Fin 10)) {rest : List Char} (h : NoDigitFirst rest) :
    scanDigits (ds.map Digits.digitChar ++ rest) = (ds, rest) := by
  induction ds with
  | nil => simpa using scanDigits_of_noDigitFirst h
  | cons d ds ih => simp [scanDigits, digit?_digitChar, ih]

theorem scanSomeDigits_append (cut : Fault) (d : Digits) {rest : List Char}
    (h : NoDigitFirst rest) : scanSomeDigits cut (d.text ++ rest) = .ok (d, rest) := by
  rw [scanSomeDigits, Digits.text, scanDigits_append _ h]
  rfl

/-- The digits of a number, of which only zero begins with a zero. -/
theorem exists_digits_decimal (n : Nat) :
    ∃ d : Digits, Text.decimal n = d.text ∧ d.value = n ∧ (d.first = 0 → n = 0 ∧ d.rest = []) := by
  induction n using Nat.strongRecOn with
  | ind n ih =>
    by_cases hn : n < 10
    · refine ⟨⟨⟨n, hn⟩, []⟩, ?_, by simp [Digits.value, Digits.toList], fun h => ⟨?_, rfl⟩⟩
      · have hchar := natDigitChar_eq ⟨n, hn⟩
        simp only at hchar
        rw [Text.decimal, Nat.toDigits_of_lt_base hn, hchar]
        rfl
      · simpa using congrArg Fin.val h
    · obtain ⟨d, htext, hvalue, hzero⟩ := ih (n / 10) (by omega)
      have hlast : n % 10 < 10 := Nat.mod_lt _ (by decide)
      refine ⟨⟨d.first, d.rest ++ [⟨n % 10, hlast⟩]⟩, ?_, ?_, fun h => ?_⟩
      · have hchar := natDigitChar_eq ⟨n % 10, hlast⟩
        simp only at hchar
        rw [Text.decimal] at htext ⊢
        rw [Nat.toDigits_of_base_le (by decide) (by omega), htext, hchar]
        simp [Digits.text, Digits.toList]
      · simp only [Digits.value, Digits.toList] at hvalue ⊢
        rw [← List.cons_append, List.foldl_append, hvalue]
        simp only [List.foldl_cons, List.foldl_nil]
        omega
      · have hquotient := (hzero h).1
        omega

private theorem scanWhole_zero (cut : Fault) {rest : List Char} (h : NoDigitFirst rest) :
    scanWhole cut (Digits.digitChar 0 :: rest) = .ok (0, rest) := by
  unfold scanWhole
  simp only [digit?_digitChar]
  cases rest with
  | nil => rfl
  | cons c rest => simp [h c rfl]

private theorem scanWhole_cons (cut : Fault) {d : Fin 10} (hd : d ≠ 0) (ds : List (Fin 10))
    {rest : List Char} (h : NoDigitFirst rest) :
    scanWhole cut (Digits.digitChar d :: (ds.map Digits.digitChar ++ rest)) =
      .ok ((⟨d, ds⟩ : Digits).value, rest) := by
  unfold scanWhole
  simp only [digit?_digitChar, scanDigits_append ds h]
  rfl

private theorem scanWhole_decimal (cut : Fault) (n : Nat) {rest : List Char}
    (h : NoDigitFirst rest) : scanWhole cut (Text.decimal n ++ rest) = .ok (n, rest) := by
  obtain ⟨⟨first, others⟩, htext, rfl, hzero⟩ := exists_digits_decimal n
  rw [htext, Digits.text, Digits.toList, List.map_cons, List.cons_append]
  by_cases hfirst : first = 0
  · obtain ⟨hvalue, hothers⟩ := hzero hfirst
    simp only at hothers
    rw [hvalue, hfirst, hothers]
    exact scanWhole_zero cut h
  · exact scanWhole_cons cut hfirst others h

private theorem scanFraction_of_ne (cut : Fault) {rest : List Char}
    (h : ∀ c ∈ rest.head?, c ≠ '.') : scanFraction cut rest = .ok (none, rest) := by
  unfold scanFraction
  split
  · exact absurd rfl (h '.' rfl)
  · rfl

private theorem scanFraction_point (cut : Fault) (d : Digits) {rest : List Char}
    (h : NoDigitFirst rest) : scanFraction cut ('.' :: (d.text ++ rest)) = .ok (some d, rest) := by
  rw [scanFraction, scanSomeDigits_append cut d h]
  rfl

theorem scanExponent_of_delimited (cut : Fault) {rest : List Char} (h : Delimited rest) :
    scanExponent cut rest = .ok (none, rest) := by
  cases rest with
  | nil => rfl
  | cons c rest =>
    obtain ⟨-, -, hsmall, hlarge⟩ := h c rfl
    simp [scanExponent, hsmall, hlarge]

private theorem scanExponent_text (cut : Fault) (e : Exponent) {rest : List Char}
    (h : NoDigitFirst rest) :
    scanExponent cut (Number.Exponent.text e ++ rest) = .ok (some e, rest) := by
  obtain ⟨negative, digits⟩ := e
  have hdigits := scanSomeDigits_append cut digits h
  cases negative with
  | false => simp [scanExponent, Number.Exponent.text, hdigits, Except.map]
  | true => simp [scanExponent, Number.Exponent.text, hdigits, Except.map]

/-- What stands behind the whole part of a number. -/
def fractionText (fraction : Option Digits) : List Char :=
  match fraction with | some d => '.' :: d.text | none => []

def exponentText (exponent : Option Exponent) : List Char :=
  match exponent with | some e => Number.Exponent.text e | none => []

private theorem scanExponent_exponentText (cut : Fault) (exponent : Option Exponent)
    {rest : List Char} (h : Delimited rest) :
    scanExponent cut (exponentText exponent ++ rest) = .ok (exponent, rest) := by
  cases exponent with
  | none => exact scanExponent_of_delimited cut h
  | some e => exact scanExponent_text cut e h.noDigitFirst

/-- Neither a digit nor a point stands in front. -/
def NoFractionFirst (rest : List Char) : Prop := ∀ c ∈ rest.head?, digit? c = none ∧ c ≠ '.'

theorem noFractionFirst_cons {c : Char} (h : digit? c = none ∧ c ≠ '.') (rest : List Char) :
    NoFractionFirst (c :: rest) := by
  simpa [NoFractionFirst] using h

private theorem noFractionFirst_exponentText (exponent : Option Exponent) {rest : List Char}
    (h : Delimited rest) : NoFractionFirst (exponentText exponent ++ rest) := by
  cases exponent with
  | none => exact fun c hc => ⟨(h c hc).1, (h c hc).2.1⟩
  | some e => exact noFractionFirst_cons (by decide) _

private theorem scanFraction_fractionText (cut : Fault) (fraction : Option Digits)
    {rest : List Char} (h : NoFractionFirst rest) :
    scanFraction cut (fractionText fraction ++ rest) = .ok (fraction, rest) := by
  cases fraction with
  | none => exact scanFraction_of_ne cut fun c hc => (h c hc).2
  | some d => exact scanFraction_point cut d fun c hc => (h c hc).1

private theorem noDigitFirst_fractionText (fraction : Option Digits) {rest : List Char}
    (h : NoFractionFirst rest) : NoDigitFirst (fractionText fraction ++ rest) := by
  cases fraction with
  | none => exact fun c hc => (h c hc).1
  | some d => exact noDigitFirst_cons (by decide) _

/-- The text of a number without its sign begins with a digit. -/
theorem exists_decimal_eq_cons (n : Nat) :
    ∃ (d : Fin 10) (cs : List Char), Text.decimal n = Digits.digitChar d :: cs := by
  obtain ⟨⟨first, others⟩, htext, -, -⟩ := exists_digits_decimal n
  exact ⟨first, others.map Digits.digitChar, htext⟩

theorem Number.text_eq (n : Number) :
    n.text = (if n.negative then ['-'] else []) ++ (Text.decimal n.whole ++
      (fractionText n.fraction ++ exponentText n.exponent)) := by
  obtain ⟨negative, whole, fraction, exponent⟩ := n
  cases fraction <;> cases exponent <;> simp [Number.text, fractionText, exponentText]

theorem digitChar_ne_minus : ∀ d : Fin 10, Digits.digitChar d ≠ '-' := by decide

/-- A number begins with its sign or with a digit. -/
theorem Number.exists_text_eq_cons (n : Number) :
    ∃ (c : Char) (cs : List Char), n.text = c :: cs ∧ (c = '-' ∨ (digit? c).isSome) := by
  obtain ⟨d, cs, hdecimal⟩ := exists_decimal_eq_cons n.whole
  rw [Number.text_eq]
  cases n.negative with
  | true => exact ⟨'-', _, rfl, Or.inl rfl⟩
  | false =>
    refine ⟨Digits.digitChar d, cs ++ (fractionText n.fraction ++ exponentText n.exponent), ?_,
      Or.inr (by simp [digit?_digitChar])⟩
    simp [hdecimal]

/-- A number is read part by part. -/
theorem scanNumber_parts (cut : Fault) (negative : Bool) (whole : Nat) (fraction : Option Digits)
    {exponent : Option Exponent} {cs rest : List Char} (hcs : NoFractionFirst cs)
    (hexponent : scanExponent cut cs = .ok (exponent, rest)) :
    scanNumber cut ((if negative then ['-'] else []) ++
        (Text.decimal whole ++ (fractionText fraction ++ cs))) =
      .ok (⟨negative, whole, fraction, exponent⟩, rest) := by
  have hwhole := scanWhole_decimal cut whole (noDigitFirst_fractionText fraction hcs)
  have hfraction := scanFraction_fractionText cut fraction hcs
  cases negative with
  | true =>
    simp only [scanNumber, if_true, List.cons_append, List.nil_append, hwhole, hfraction, hexponent,
      bind, Except.bind, pure, Except.pure]
  | false =>
    obtain ⟨d, ds, hdecimal⟩ := exists_decimal_eq_cons whole
    have hsign := digitChar_ne_minus d
    rw [hdecimal] at hwhole ⊢
    simp only [scanNumber, Bool.false_eq_true, if_false, List.nil_append, List.cons_append]
      at hwhole ⊢
    split
    · rename_i hminus
      exact absurd (List.cons.inj hminus).1 hsign
    · simp only [hwhole, hfraction, hexponent, bind, Except.bind, pure, Except.pure]

theorem scanNumber_text (cut : Fault) (n : Number) {rest : List Char} (h : Delimited rest) :
    scanNumber cut (n.text ++ rest) = .ok (n, rest) := by
  have hexponent := scanExponent_exponentText cut n.exponent h
  have hparts := scanNumber_parts cut n.negative n.whole n.fraction
    (noFractionFirst_exponentText n.exponent h) hexponent
  rw [Number.text_eq]
  simpa only [List.append_assoc] using hparts

theorem hexValue?_hexDigit : ∀ d : Fin 16, hexValue? (hexDigit d) = some d.val := by decide

theorem hasFourBytes_append {a b c d : Char} (rest : List Char) :
    hasFourBytes (a :: b :: c :: d :: rest) = true := by
  have ha := a.utf8Size_pos
  have hb := b.utf8Size_pos
  have hc := c.utf8Size_pos
  have hd := d.utf8Size_pos
  refine decide_eq_true ?_
  simp only [List.take_succ_cons, List.take_zero, List.foldl_cons, List.foldl_nil,
    Encoding.size_characters]
  omega

variable {kept : Bool} {done cs : List Char}

theorem scanString_escape {c x : Char} (hu : c ≠ 'u') (h : simpleEscape? c = some x) :
    scanString kept .plain done ('\\' :: c :: cs) = scanString kept .plain (x :: done) cs := by
  simp [scanString, hu, h]

/-- A control character is written with two zeros and two more digits. -/
theorem scanString_control {c : Char} (h : c.toNat < 0x20) :
    scanString kept .plain done
        ('\\' :: 'u' :: '0' :: '0' :: hexDigit (c.toNat / 16) :: hexDigit (c.toNat % 16) :: cs) =
      scanString kept .plain (c :: done) cs := by
  have hzero : hexValue? '0' = some 0 := by decide
  have hhigh := hexValue?_hexDigit ⟨c.toNat / 16, by omega⟩
  have hlow := hexValue?_hexDigit ⟨c.toNat % 16, by omega⟩
  have hvalue : 16 * (c.toNat / 16) + c.toNat % 16 = c.toNat := Nat.div_add_mod _ _
  have hhighSurrogate : Text.Utf16.isHighSurrogate c.toNat = false := by
    simp only [Text.Utf16.isHighSurrogate, decide_eq_false_iff_not]
    omega
  have hlowSurrogate : Text.Utf16.isLowSurrogate c.toNat = false := by
    simp only [Text.Utf16.isLowSurrogate, decide_eq_false_iff_not]
    omega
  simp only at hhigh hlow
  simp [scanString, hasFourBytes_append, hzero, hhigh, hlow, hvalue, hhighSurrogate, hlowSurrogate,
    Char.ofNat_toNat]

private theorem scanString_escapeChar (c : Char) :
    scanString kept .plain done (escapeChar c ++ cs) = scanString kept .plain (c :: done) cs := by
  unfold escapeChar
  iterate 7
    split
    · rename_i h
      subst h
      exact scanString_escape (by decide) (by decide)
  split
  · rename_i h
    exact scanString_control h
  · rename_i hquote hbackslash _ _ _ _ _ hcontrol
    simp [scanString, hquote, hbackslash, hcontrol]

private theorem scanString_escaped (s : List Char) (rest : List Char) :
    scanString kept .plain done (s.flatMap escapeChar ++ '"' :: rest) =
      .ok (String.ofList (done.reverse ++ s), rest) := by
  induction s generalizing done with
  | nil => simp [scanString]
  | cons c s ih =>
    rw [List.flatMap_cons, List.append_assoc, scanString_escapeChar, ih]
    simp

/-- Whatever a string holds, it is read back behind its opening quote. -/
theorem scanString_quote (s : String) (rest : List Char) :
    ∃ cs, quote s ++ rest = '"' :: cs ∧
      ∀ kept, scanString kept .plain [] cs = .ok (s, rest) := by
  refine ⟨s.toList.flatMap escapeChar ++ '"' :: rest, by simp [quote], fun kept => ?_⟩
  rw [scanString_escaped]
  simp

end PlaybackRelay.Json

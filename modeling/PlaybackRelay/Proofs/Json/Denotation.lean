import PlaybackRelay.Proofs.Json.Recognition

/-!
What is read of a spelled value is what it denotes, whatever blanks stand between its tokens, and a
spelling that denotes nothing is a fault. Main statement: `yields_readSteps`.
-/
namespace PlaybackRelay.Json

open Source (comma)

section Blanks

variable {token cs mid rest : List Char} {tokens : List (List Char)}

private theorem delimited_of_isBlank {c : Char} (h : isBlank c = true) (rest : List Char) :
    Delimited (c :: rest) := by
  simp only [isBlank, Bool.or_eq_true, decide_eq_true_eq] at h
  simp only [Delimited, List.head?_cons, Option.mem_some_iff, forall_eq']
  rcases h with ((rfl | rfl) | rfl) | rfl <;> decide

namespace Spaced

/-- Blanks cannot continue a number any more than the token behind them. -/
theorem delimited {c : Char} (hc : ∀ rest, Delimited (c :: rest))
    (h : Spaced ([c] :: tokens) cs rest) : Delimited cs := by
  obtain ⟨blanks, behind, hblanks, rfl, -⟩ := h.exists_of_cons
  cases blanks with
  | nil => exact hc behind
  | cons b blanks => exact delimited_of_isBlank (hblanks b List.mem_cons_self) _

theorem eq_of_nil (h : Spaced [] cs rest) : cs = rest := by
  cases h
  rfl

/-- What a reader finds of a single token. -/
theorem skipBlanks_eq {c : Char} (hc : isBlank c = false) (h : Spaced [c :: token] cs rest) :
    Json.skipBlanks cs = c :: (token ++ rest) := by
  obtain ⟨behind, hskip, hbehind⟩ := h.exists_skipBlanks hc
  rw [hskip, hbehind.eq_of_nil]

theorem skipBlanks_string {t : StringToken} (h : Spaced [t.text] cs rest) :
    Json.skipBlanks cs = '"' :: (t.body ++ '"' :: rest) := by
  simpa using h.skipBlanks_eq (by decide)

/-- A number is found and scanned, wherever it may be cut. -/
theorem exists_scanNumber {t : NumberToken} (h : Spaced [t.text] cs rest)
    (hrest : Delimited rest) :
    ∃ c behind, (c = '-' ∨ (digit? c).isSome) ∧ Json.skipBlanks cs = c :: behind ∧
      ∀ cut, scanNumber cut (c :: behind) = .ok (t.number, rest) := by
  obtain ⟨c, token, htext, hc⟩ := t.exists_text_eq_cons
  rw [htext] at h
  refine ⟨c, token ++ rest, hc, h.skipBlanks_eq (isBlank_of_number hc).1, fun cut => ?_⟩
  have hscan := scanNumber_token cut t hrest
  rwa [htext, List.cons_append] at hscan

theorem delimited_items {items : List Source}
    (h : Spaced (Source.itemTokens false items ++ [[']']]) cs rest) : Delimited cs := by
  cases items with
  | nil => exact h.delimited delimited_bracket
  | cons x items => exact h.delimited delimited_comma

theorem delimited_members {ms : List (StringToken × Source)}
    (h : Spaced (Source.memberTokens false ms ++ [['}']]) cs rest) : Delimited cs := by
  cases ms with
  | nil => exact h.delimited delimited_brace
  | cons m ms => exact h.delimited delimited_comma

end Spaced

end Blanks

section Pieces

variable {cs mid rest : List Char} {first : Bool}

theorem scanLiteral_append (word rest : List Char) : scanLiteral word (word ++ rest) = .ok rest := by
  induction word with
  | nil => rfl
  | cons c word ih =>
    rw [List.cons_append, scanLiteral, if_pos rfl]
    exact ih

theorem scanColon_of_spaced (h : Spaced [[':']] cs rest) : scanColon cs = .ok rest := by
  rw [scanColon, h.skipBlanks_eq (by decide)]
  rfl

private theorem nextItem_of_spaced_close (first : Bool) (h : Spaced [[']']] cs rest) :
    nextItem first cs = .ok (false, rest) := by
  rw [nextItem, h.skipBlanks_eq (by decide)]
  rfl

/-- An item is found behind its comma, and it is left with no blank in front. -/
theorem nextItem_of_spaced {x : Source} {tokens : List (List Char)}
    (hcomma : Spaced (comma first) cs mid) (hitem : Spaced (x.tokens ++ tokens) mid rest) :
    nextItem first cs = .ok (true, skipBlanks mid) ∧
      Spaced (x.tokens ++ tokens) (skipBlanks mid) rest := by
  obtain ⟨c, token, others, htokens, hblank, hc⟩ := x.exists_tokens_eq_cons
  rw [htokens, List.cons_append] at hitem ⊢
  refine ⟨?_, hitem.skipBlanks hblank⟩
  obtain ⟨behind, hskip, -⟩ := hitem.exists_skipBlanks hblank
  cases first with
  | true =>
    obtain rfl := hcomma.eq_of_nil
    simp [nextItem, hskip]
  | false =>
    have hfound : skipBlanks cs = ',' :: mid := hcomma.skipBlanks_eq (by decide)
    simp [nextItem, hfound, hskip, hc]

theorem nextName_of_spaced_close (first : Bool) (h : Spaced [['}']] cs rest) :
    nextName first cs = .ok (none, rest) := by
  rw [nextName, h.skipBlanks_eq (by decide)]
  rfl

theorem yields_nextName {t : StringToken} (h : Spaced (comma first ++ [t.text]) cs rest) :
    Yields (t.value?.map (some ·, rest)) (nextName first cs) := by
  obtain ⟨mid, hcomma, hname⟩ := h.exists_of_append
  have hquote := hname.skipBlanks_string
  have hagain : skipBlanks ('"' :: (t.body ++ '"' :: rest)) = '"' :: (t.body ++ '"' :: rest) :=
    skipBlanks_cons (by decide) _
  have hscan : Yields (t.value?.map (some ·, rest))
      ((scanText (t.body ++ '"' :: rest)).map fun x => (some x.1, x.2)) := by
    have hscan := (yields_scanText t rest).map fun x => (some x.1, x.2)
    rwa [Option.map_map] at hscan
  cases first with
  | true =>
    obtain rfl := hcomma.eq_of_nil
    simpa [nextName, hquote, hagain] using hscan
  | false =>
    have hfound : skipBlanks cs = ',' :: mid := hcomma.skipBlanks_eq (by decide)
    simpa [nextName, hfound, hquote] using hscan

end Pieces

/-- The character with which a value begins. -/
inductive Source.Begins : Source → Char → Prop
  | null : Begins .null 'n'
  | true : Begins (.bool true) 't'
  | false : Begins (.bool false) 'f'
  | number (t : NumberToken) {c : Char} (h : c = '-' ∨ (digit? c).isSome) : Begins (.number t) c
  | string (t : StringToken) : Begins (.string t) '"'
  | array (items : List Source) : Begins (.array items) '['
  | object (ms : List (StringToken × Source)) : Begins (.object ms) '{'

theorem Source.exists_begins {x : Source} {cs rest : List Char} (h : Spaced x.tokens cs rest) :
    ∃ c behind, skipBlanks cs = c :: behind ∧ x.Begins c := by
  cases x with
  | null => exact ⟨_, _, h.skipBlanks_eq (by decide), .null⟩
  | bool b => cases b with
    | false => exact ⟨_, _, h.skipBlanks_eq (by decide), .false⟩
    | true => exact ⟨_, _, h.skipBlanks_eq (by decide), .true⟩
  | number t =>
    obtain ⟨c, token, htext, hc⟩ := t.exists_text_eq_cons
    rw [tokens, htext] at h
    exact ⟨c, _, h.skipBlanks_eq (isBlank_of_number hc).1, .number t hc⟩
  | string t => exact ⟨_, _, h.skipBlanks_eq (by decide), .string t⟩
  | array items =>
    obtain ⟨behind, hskip, -⟩ := h.exists_skipBlanks (by decide)
    exact ⟨_, _, hskip, .array items⟩
  | object ms =>
    obtain ⟨behind, hskip, -⟩ := h.exists_skipBlanks (by decide)
    exact ⟨_, _, hskip, .object ms⟩

theorem yields_readString {x : Source} {cs rest : List Char} (h : Spaced x.tokens cs rest) :
    Yields (x.string?.map (·, rest)) (readString cs) := by
  obtain ⟨c, behind, hskip, hbegins⟩ := Source.exists_begins h
  cases hbegins with
  | string t =>
    rw [readString, h.skipBlanks_string]
    exact yields_scanText t rest
  | number t hc =>
    obtain ⟨-, -, -, hquote, -, -⟩ := ne_of_number hc
    rw [readString, hskip]
    simp only [Source.string?, Option.map_none]
    split
    · rename_i heq
      exact absurd (List.cons.inj heq).1 hquote
    · exact .error _
  | _ =>
    rw [readString, hskip]
    exact .error _

section Values

variable {fuel depth : Nat} {cs mid rest : List Char}

/-- The value is read in front of any text that does not continue it. -/
def Denotes (x : Source) : Prop :=
  ∀ {fuel depth : Nat} {cs rest : List Char}, Spaced x.tokens cs rest → Delimited rest →
    2 * x.tokens.flatten.length ≤ fuel →
    Yields ((x.value? depth).map (·, rest)) (readSteps fuel depth cs)

private theorem readItems_eq_bind {done : List Json}
    (h : nextItem done.isEmpty cs = .ok (true, mid)) :
    readItems (fuel + 1) depth done cs =
      (readSteps fuel depth mid >>= fun (v, rest) => readItems fuel depth (v :: done) rest) := by
  rw [readItems, h]
  simp only
  cases readSteps fuel depth mid <;> rfl

private theorem readMembers_eq_bind {first : Bool} {done : Members} :
    readMembers (fuel + 1) depth first done cs =
      (nextName first cs >>= fun (name, cs) =>
        match name with
        | none => .ok (.object done, cs)
        | some name => do
          let (v, cs) ← readSteps fuel depth (← scanColon cs)
          readMembers fuel depth false (done.insert name v) cs) := by
  rw [readMembers]
  rcases nextName first cs with fault | ⟨_ | name, mid⟩
  · rfl
  · rfl
  · simp only [bind, Except.bind]
    cases scanColon mid with
    | error fault => rfl
    | ok mid =>
      simp only
      cases readSteps fuel depth mid <;> rfl

private theorem yields_readItems {items : List Source} (hitems : ∀ x ∈ items, Denotes x)
    {done : List Json} (h : Spaced (Source.itemTokens done.isEmpty items ++ [[']']]) cs rest)
    (hfuel : 2 * (Source.itemTokens done.isEmpty items).flatten.length + 1 ≤ fuel) :
    Yields ((Source.itemValues? depth items).map fun vs => (.array (done.reverse ++ vs), rest))
      (readItems fuel depth done cs) := by
  induction items generalizing fuel done cs with
  | nil =>
    obtain ⟨fuel, rfl⟩ := Nat.exists_eq_add_one_of_ne_zero (n := fuel) (by omega)
    rw [readItems, nextItem_of_spaced_close _ h]
    simp only [Source.itemValues?, Option.map_some, List.append_nil]
    exact .ok _
  | cons x items ih =>
    obtain ⟨hx, hitems⟩ := List.forall_mem_cons.1 hitems
    obtain ⟨fuel, rfl⟩ := Nat.exists_eq_add_one_of_ne_zero (n := fuel) (by omega)
    rw [Source.itemTokens_cons_append] at h
    obtain ⟨cs₁, hcomma, h⟩ := h.exists_of_append
    obtain ⟨hnext, h⟩ := nextItem_of_spaced hcomma h
    obtain ⟨cs₂, hspaced, hrest⟩ := h.exists_of_append
    have hpos : 0 < x.tokens.flatten.length := by
      obtain ⟨c, token, tokens, htokens, -⟩ := x.exists_tokens_eq_cons
      simp [htokens]
    simp only [Source.itemTokens, List.flatten_append, List.length_append] at hfuel
    have hlater (v : Json) := @ih fuel cs₂ hitems (v :: done) hrest (by
      simp only [List.isEmpty_cons]
      omega)
    rw [readItems_eq_bind hnext, Source.itemValues?, Option.map_bind]
    refine (hx hspaced hrest.delimited_items (by omega)).bind fun v _ => ?_
    simpa [Function.comp_def] using hlater v

theorem Source.length_tokens_pos (x : Source) : 0 < x.tokens.flatten.length := by
  obtain ⟨c, token, tokens, htokens, -⟩ := x.exists_tokens_eq_cons
  simp [htokens]

theorem yields_readMembers {ms : List (StringToken × Source)} (hms : ∀ m ∈ ms, Denotes m.2)
    {first : Bool} {done : Members} (h : Spaced (Source.memberTokens first ms ++ [['}']]) cs rest)
    (hfuel : 2 * (Source.memberTokens first ms).flatten.length + 1 ≤ fuel) :
    Yields ((Source.memberValues? depth done ms).map (.object ·, rest))
      (readMembers fuel depth first done cs) := by
  induction ms generalizing fuel first done cs with
  | nil =>
    obtain ⟨fuel, rfl⟩ := Nat.exists_eq_add_one_of_ne_zero (n := fuel) (by omega)
    rw [readMembers, nextName_of_spaced_close _ h]
    exact .ok _
  | cons m ms ih =>
    obtain ⟨hm, hms⟩ := List.forall_mem_cons.1 hms
    obtain ⟨fuel, rfl⟩ := Nat.exists_eq_add_one_of_ne_zero (n := fuel) (by omega)
    rw [Source.memberTokens_cons_append] at h
    obtain ⟨cs₁, hname, h⟩ := h.exists_of_append
    obtain ⟨cs₂, hcolon, h⟩ := h.exists_of_append
    obtain ⟨cs₃, hspaced, hrest⟩ := h.exists_of_append
    have hpos := m.2.length_tokens_pos
    simp only [Source.memberTokens, List.flatten_append, List.flatten_cons, List.length_append,
      List.length_singleton] at hfuel
    rw [readMembers_eq_bind, Source.memberValues?, Option.map_bind]
    refine (yields_nextName hname).bind fun name _ => ?_
    simp only [scanColon_of_spaced hcolon, Function.comp_apply, Option.map_bind]
    exact (hm hspaced hrest.delimited_members (by omega)).bind fun v _ => ih hms hrest (by omega)

/-- Nothing may stand behind the wrapped text. -/
theorem yields_closeWrapped {α : Type} (a : α) {ms : List (StringToken × Source)}
    (h : Spaced (Source.memberTokens false ms ++ [['}']]) cs rest) :
    Yields (if ms.isEmpty then some (a, rest) else none) (closeWrapped a cs) := by
  cases ms with
  | nil =>
    have hclose : skipBlanks cs = '}' :: rest := h.skipBlanks_eq (by decide)
    rw [closeWrapped, hclose]
    exact .ok _
  | cons m ms =>
    obtain ⟨behind, hskip, -⟩ := h.exists_skipBlanks (by decide)
    rw [closeWrapped, hskip]
    exact .error _

/-- What was made of the wrapped text counts only if the object closes behind it. -/
private theorem map_bind_ite {α β γ : Type} (text? : Option α) (f : α → Option β) (g : β → γ)
    (closes : Bool) :
    ((if closes then text? else none).bind f).map g =
      text?.bind fun text => (f text).bind fun b => if closes then some (g b) else none := by
  cases text? with
  | none => cases closes <;> rfl
  | some text => cases h : f text <;> cases closes <;> simp [h]

theorem yields_readWrapped {x : Source} (hcolon : Spaced [[':']] cs mid)
    (hx : Spaced x.tokens mid rest) : Yields (x.string?.map (·, rest)) (readWrapped cs) := by
  rw [readWrapped, scanColon_of_spaced hcolon]
  exact yields_readString hx

theorem Source.wrapped?_cons (m : StringToken × Source) (ms : List (StringToken × Source)) :
    wrapped? (m :: ms) = (m.1.value?.bind Wrapped.ofName?).map
      (·, if ms.isEmpty then m.2.string? else none) := rfl

private theorem yields_readWrappedNumber {x : Source} {ms : List (StringToken × Source)}
    (hcolon : Spaced [[':']] cs mid)
    (h : Spaced (x.tokens ++ (Source.memberTokens false ms ++ [['}']])) mid rest) :
    Yields (((if ms.isEmpty then x.string? else none).bind Number.ofText?).map (·, rest))
      (readWrappedNumber cs) := by
  obtain ⟨after, hx, hclose⟩ := h.exists_of_append
  rw [map_bind_ite, readWrappedNumber]
  refine (yields_readWrapped hcolon hx).bind fun text _ => ?_
  cases hnumber : Number.ofText? text with
  | none =>
    simp only [hnumber]
    exact .error _
  | some n =>
    simp only [hnumber]
    exact yields_closeWrapped n hclose

/-- A value is read with any number of steps that is large enough. -/
theorem toOption_readSteps {more : Nat} (hfuel : 2 * cs.length ≤ fuel)
    (hmore : 2 * cs.length ≤ more) :
    (readSteps fuel depth cs).toOption = (readSteps more depth cs).toOption := by
  refine Option.ext fun ⟨v, rest⟩ => ?_
  have hiff {fuel more : Nat} (hmore : 2 * cs.length ≤ more)
      (h : (readSteps fuel depth cs).toOption = some (v, rest)) :
      (readSteps more depth cs).toOption = some (v, rest) := by
    cases hread : readSteps fuel depth cs with
    | error fault =>
      rw [hread] at h
      contradiction
    | ok scanned =>
      rw [hread] at h
      obtain rfl := Option.some.inj h
      exact congrArg Except.toOption ((enough_of_fuel fuel).1 hread more (by omega))
  exact ⟨hiff hmore, hiff hfuel⟩

private theorem toOption_parse {text : String} (hfuel : 2 * text.toList.length ≤ fuel) :
    (parse text).toOption = (readSteps fuel maxDepth text.toList).toOption.bind fun (v, rest) =>
      if skipBlanks rest = [] then some v else none := by
  rw [toOption_readSteps hfuel (Nat.le_add_right _ 2), parse, whole, readWhole, readValue]
  cases readSteps (2 * text.toList.length + 2) maxDepth text.toList with
  | error fault => rfl
  | ok scanned =>
    obtain ⟨v, rest⟩ := scanned
    by_cases hend : skipBlanks rest = []
    · simp [bind, Except.bind, pure, Except.pure, Except.toOption, hend]
    · simp [bind, Except.bind, throw, throwThe, MonadExceptOf.throw, Except.toOption, hend]

theorem Source.length_string?_le {x : Source} {text : String} (h : x.string? = some text) :
    text.toList.length ≤ x.tokens.flatten.length := by
  cases x with
  | string t =>
    obtain ⟨chars, hchars, rfl⟩ := Option.map_eq_some_iff.1 h
    have hlength := StringToken.length_chars?_le hchars
    rw [String.toList_ofList]
    simp only [tokens, StringToken.text, List.flatten_singleton, List.length_cons,
      List.length_append]
    omega
  | _ => contradiction

private theorem yields_readWrappedValue {x : Source} {ms : List (StringToken × Source)}
    (hcolon : Spaced [[':']] cs mid)
    (h : Spaced (x.tokens ++ (Source.memberTokens false ms ++ [['}']])) mid rest)
    (hfuel : 2 * x.tokens.flatten.length ≤ fuel) :
    Yields (((if ms.isEmpty then x.string? else none).bind fun text =>
      (parse text).toOption).map (·, rest)) (readWrappedValue (fuel + 1) cs) := by
  obtain ⟨after, hx, hclose⟩ := h.exists_of_append
  rw [map_bind_ite, readWrappedValue]
  refine (yields_readWrapped hcolon hx).bind fun text htext => ?_
  have hlength : text.toList.length ≤ x.tokens.flatten.length := Source.length_string?_le htext
  rw [toOption_parse (Nat.le_trans (Nat.mul_le_mul_left 2 hlength) hfuel)]
  cases hread : readSteps fuel maxDepth text.toList with
  | error fault =>
    simp only [hread]
    exact .error _
  | ok scanned =>
    obtain ⟨v, behind⟩ := scanned
    by_cases hend : skipBlanks behind = []
    · simpa [hread, hend, Except.toOption] using yields_closeWrapped v hclose
    · simp only [hread, hend, Except.toOption, Option.bind_some, if_false, Option.bind_none]
      exact .error _

theorem exists_fuel {x : Source} (hfuel : 2 * x.tokens.flatten.length ≤ fuel) :
    ∃ fuel', fuel = fuel' + 1 := by
  have hpos := x.length_tokens_pos
  exact Nat.exists_eq_add_one_of_ne_zero (by omega)

private theorem denotes_null : Denotes .null := by
  intro fuel depth cs rest h _ hfuel
  obtain ⟨fuel, rfl⟩ := exists_fuel hfuel
  have hskip : skipBlanks cs = 'n' :: ("ull".toList ++ rest) := h.skipBlanks_eq (by decide)
  rw [readSteps, hskip]
  simp only [scanLiteral_append]
  exact .ok _

private theorem denotes_bool (b : Bool) : Denotes (.bool b) := by
  intro fuel depth cs rest h _ hfuel
  obtain ⟨fuel, rfl⟩ := exists_fuel hfuel
  cases b with
  | false =>
    have hskip : skipBlanks cs = 'f' :: ("alse".toList ++ rest) := h.skipBlanks_eq (by decide)
    rw [readSteps, hskip]
    simp only [scanLiteral_append]
    exact .ok _
  | true =>
    have hskip : skipBlanks cs = 't' :: ("rue".toList ++ rest) := h.skipBlanks_eq (by decide)
    rw [readSteps, hskip]
    simp only [scanLiteral_append]
    exact .ok _

private theorem denotes_number (t : NumberToken) : Denotes (.number t) := by
  intro fuel depth cs rest h hrest hfuel
  obtain ⟨fuel, rfl⟩ := exists_fuel hfuel
  obtain ⟨c, behind, hc, hskip, hscan⟩ := h.exists_scanNumber hrest
  obtain ⟨hn, ht, hf, hquote, hbracket, hbrace⟩ := ne_of_number hc
  have hread : readSteps (fuel + 1) depth cs = .ok (.number t.number, rest) := by
    rw [readSteps, hskip]
    simp [hc, hscan, Except.map]
  rw [hread]
  exact .ok _

private theorem denotes_string (t : StringToken) : Denotes (.string t) := by
  intro fuel depth cs rest h _ hfuel
  obtain ⟨fuel, rfl⟩ := exists_fuel hfuel
  have hscan := (yields_scanText t rest).map fun (s, rest) => (Json.string s, rest)
  rw [readSteps, h.skipBlanks_string, Source.value?, Option.map_map]
  rwa [Option.map_map] at hscan

private theorem denotes_array {items : List Source} (hitems : ∀ x ∈ items, Denotes x) :
    Denotes (.array items) := by
  intro fuel depth cs rest h _ hfuel
  obtain ⟨fuel, rfl⟩ := exists_fuel hfuel
  obtain ⟨behind, hskip, h⟩ := h.exists_skipBlanks (by decide)
  simp only [Source.tokens, List.flatten_cons, List.flatten_append, List.length_append,
    List.length_singleton, List.flatten_nil, List.length_nil] at hfuel
  rw [List.nil_append] at hskip
  rw [readSteps, hskip, Source.value?]
  simp only
  by_cases hdepth : depth = 0
  · rw [if_pos hdepth, if_pos hdepth]
    exact .error _
  · rw [if_neg hdepth, if_neg hdepth, Option.map_map]
    exact @yields_readItems fuel (depth - 1) behind rest items hitems [] h
      (by rw [List.isEmpty_nil]; omega)

private theorem wrapped?_of_spaced {t : StringToken} (h : Spaced (comma true ++ [t.text]) cs rest) :
    wrapped? cs = (t.value?.bind Wrapped.ofName?).map (·, rest) := by
  have hnext := yields_nextName h
  rw [wrapped?]
  cases hvalue : t.value? with
  | none =>
    rw [hvalue] at hnext
    obtain ⟨fault, hfault⟩ := hnext.exists_eq_error
    rw [hfault]
    rfl
  | some name =>
    rw [hvalue] at hnext
    rw [hnext.eq_ok]
    rfl

private theorem denotes_object {ms : List (StringToken × Source)} (hms : ∀ m ∈ ms, Denotes m.2) :
    Denotes (.object ms) := by
  intro fuel depth cs rest h _ hfuel
  obtain ⟨fuel, rfl⟩ := exists_fuel hfuel
  obtain ⟨behind, hskip, h⟩ := h.exists_skipBlanks (by decide)
  simp only [Source.tokens, List.flatten_cons, List.flatten_append, List.length_append,
    List.length_singleton, List.flatten_nil, List.length_nil] at hfuel
  rw [List.nil_append] at hskip
  rw [readSteps, hskip, Source.value?]
  simp only
  by_cases hdepth : depth = 0
  · rw [if_pos hdepth, if_pos hdepth]
    exact .error _
  rw [if_neg hdepth, if_neg hdepth]
  have hmembers : Yields (((Source.memberValues? (depth - 1) [] ms).map .object).map (·, rest))
      (readMembers fuel (depth - 1) true [] behind) := by
    rw [Option.map_map]
    exact yields_readMembers hms h (by omega)
  cases ms with
  | nil => rwa [wrapped?, nextName_of_spaced_close true h]
  | cons m ms =>
    rw [Source.memberTokens_cons_append] at h
    obtain ⟨cs₁, hname, h⟩ := h.exists_of_append
    obtain ⟨cs₂, hcolon, h⟩ := h.exists_of_append
    rw [wrapped?_of_spaced hname, Source.wrapped?_cons]
    cases hwrapped : m.1.value?.bind Wrapped.ofName? with
    | none => exact hmembers
    | some w =>
      cases w with
      | number =>
        have hnumber := (yields_readWrappedNumber hcolon h).map fun x => (Json.number x.1, x.2)
        simp only [Option.map_some, Option.map_map] at hnumber ⊢
        exact hnumber
      | value =>
        have hlength : m.2.tokens.flatten.length + 1 ≤
            (Source.memberTokens true (m :: ms)).flatten.length := by
          simp only [Source.memberTokens, List.flatten_append, List.flatten_cons,
            List.length_append, List.length_singleton]
          omega
        obtain ⟨fuel, rfl⟩ := Nat.exists_eq_add_one_of_ne_zero (n := fuel) (by omega)
        exact yields_readWrappedValue hcolon h (by omega)

theorem yields_readSteps (x : Source) : Denotes x := by
  induction x using Source.inductionOn with
  | null => exact denotes_null
  | bool b => exact denotes_bool b
  | number t => exact denotes_number t
  | string t => exact denotes_string t
  | array items ih => exact denotes_array ih
  | object ms ih => exact denotes_object ih

end Values

namespace Source

/-- The string that is written, or the null in its place. -/
def optionalString? : Source → Option (Option String)
  | .null => some none
  | x => x.string?.map some

/-- The integer between two bounds that is written. -/
def integer? (least most : Int) : Source → Option Int
  | .number t =>
    if t.number.exceedsDouble then none
    else t.number.int?.bind fun i =>
      if (t.number.negative ∧ t.number.whole = 0) ∨ i < least ∨ most < i then none else some i
  | _ => none

/-- The members of the object that is written, if `depth` containers may be open at once. -/
def members? (depth : Nat) : Source → Option Members
  | .object ms => if depth = 0 then none else memberValues? (depth - 1) [] ms
  | _ => none

end Source

section Wanted

variable {x : Source} {cs rest : List Char}

theorem Source.spaced_skipBlanks (h : Spaced x.tokens cs rest) :
    Spaced x.tokens (skipBlanks cs) rest := by
  obtain ⟨c, token, tokens, htokens, hblank, -⟩ := x.exists_tokens_eq_cons
  rw [htokens] at h ⊢
  exact h.skipBlanks hblank

theorem yields_readOptional (h : Spaced x.tokens cs rest) :
    Yields (x.optionalString?.map (·, rest)) (readOptional readString cs) := by
  have hstring := (yields_readString (Source.spaced_skipBlanks h)).map fun x => (some x.1, x.2)
  rw [Option.map_map] at hstring
  obtain ⟨c, behind, hskip, hbegins⟩ := Source.exists_begins h
  rw [hskip] at hstring
  cases hbegins with
  | null =>
    have hnull : skipBlanks cs = 'n' :: ("ull".toList ++ rest) := h.skipBlanks_eq (by decide)
    rw [readOptional, hnull]
    simp only [scanLiteral_append]
    exact .ok _
  | number t hc =>
    have hread : readOptional readString cs =
        (readString (c :: behind)).map fun x => (some x.1, x.2) := by
      rw [readOptional, hskip]
      split
      · rename_i heq
        exact absurd (List.cons.inj heq).1 (ne_of_number hc).1
      · rfl
    rw [hread]
    exact hstring
  | string t =>
    rw [readOptional, hskip, Source.optionalString?, Option.map_map]
    · exact hstring
    · intro hnull
      contradiction
  | _ =>
    rw [readOptional, hskip]
    exact hstring

theorem yields_readInteger {least most : Int} (h : Spaced x.tokens cs rest)
    (hrest : Delimited rest) :
    Yields ((x.integer? least most).map (·, rest)) (readInteger least most cs) := by
  obtain ⟨c, behind, hskip, hbegins⟩ := Source.exists_begins h
  cases hbegins with
  | number t =>
    obtain ⟨c, behind, hc, hskip, hscan⟩ := h.exists_scanNumber hrest
    rw [readInteger, hskip]
    simp only [if_pos hc, hscan, bind, Except.bind, Source.integer?]
    by_cases hexceeds : t.number.exceedsDouble = true
    · rw [if_pos hexceeds, if_pos hexceeds]
      exact .error _
    rw [if_neg hexceeds, if_neg hexceeds]
    cases hint : t.number.int? with
    | none => exact .error _
    | some i =>
      simp only [pure, Except.pure, Option.bind_some]
      split
      · exact .error _
      · exact .ok _
  | _ =>
    rw [readInteger, hskip]
    exact .error _

theorem yields_readObject {depth : Nat} (h : Spaced x.tokens cs rest) :
    Yields ((x.members? depth).map (·, rest)) (readObject depth cs) := by
  obtain ⟨c, behind, hskip, hbegins⟩ := Source.exists_begins h
  cases hbegins with
  | object ms =>
    have hlength := h.length_le
    obtain ⟨behind, hskip, h⟩ := h.exists_skipBlanks (by decide)
    simp only [Source.tokens, List.flatten_cons, List.flatten_append, List.length_append,
      List.length_singleton, List.flatten_nil, List.length_nil] at hlength
    rw [List.nil_append] at hskip
    rw [readObject, hskip, Source.members?]
    simp only
    by_cases hdepth : depth = 0
    · rw [if_pos hdepth, if_pos hdepth]
      exact .error _
    rw [if_neg hdepth, if_neg hdepth]
    have hread : Yields ((Source.memberValues? (depth - 1) [] ms).map (.object ·, rest))
        (readMembers (2 * cs.length + 2) (depth - 1) true [] behind) :=
      yields_readMembers (fun m _ => yields_readSteps m.2) h (by omega)
    rw [Option.map_eq_bind]
    exact hread.bind fun members _ => .ok (members, rest)
  | number t hc =>
    rw [readObject, hskip]
    split
    · rename_i heq
      obtain ⟨-, -, -, -, -, hbrace⟩ := ne_of_number hc
      exact absurd (List.cons.inj heq).1 hbrace
    · exact .error _
  | _ =>
    rw [readObject, hskip]
    exact .error _

end Wanted

end PlaybackRelay.Json

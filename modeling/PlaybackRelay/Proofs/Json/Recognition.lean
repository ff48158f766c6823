import Mathlib.Data.List.TakeWhile
import PlaybackRelay.Proofs.Json.Spelling

/-!
A reader accepts nothing but spelled values, and takes at most two steps for each character of one.
Main statements: `exists_spaced_of_readSteps` and `enough_of_fuel`.
-/
namespace PlaybackRelay.Json

namespace Spaced

variable {token : List Char} {tokens : List (List Char)} {cs rest : List Char}

/-- Blanks that are skipped may as well stand there. -/
theorem of_skipBlanks (h : Spaced (token :: tokens) (Json.skipBlanks cs) rest) :
    Spaced (token :: tokens) cs rest := by
  have hblanks : ∀ c ∈ cs.takeWhile isBlank, isBlank c = true := fun c => List.mem_takeWhile_imp
  rw [← List.takeWhile_append_dropWhile (p := isBlank) (l := cs)]
  exact .blanks hblanks h

theorem single (h : Json.skipBlanks cs = token ++ rest) : Spaced [token] cs rest := by
  refine .of_skipBlanks ?_
  rw [h]
  exact .token token (.nil rest)

theorem string {t : StringToken} (h : Json.skipBlanks cs = '"' :: (t.body ++ '"' :: rest)) :
    Spaced [t.text] cs rest := by
  refine .single ?_
  rw [h]
  simp [StringToken.text]

end Spaced

section Pieces

variable {cs cs₁ rest : List Char} {first : Bool}

theorem eq_of_scanLiteral {word : List Char} (h : scanLiteral word cs = .ok rest) :
    cs = word ++ rest := by
  induction word generalizing cs with
  | nil =>
    obtain rfl := Except.ok.inj h
    rfl
  | cons w word ih =>
    cases cs with
    | nil => contradiction
    | cons c cs =>
      rw [scanLiteral] at h
      split at h
      · rename_i hc
        rw [hc, ih h, List.cons_append]
      · contradiction

theorem spaced_of_scanColon (h : scanColon cs = .ok rest) : Spaced [[':']] cs rest := by
  unfold scanColon at h
  split at h
  · contradiction
  · rename_i hskip
    obtain rfl := Except.ok.inj h
    exact .single hskip
  · contradiction

theorem spaced_of_closeWrapped {α : Type} {v w : α} (h : closeWrapped v cs = .ok (w, rest)) :
    Spaced [['}']] cs rest := .single (closeWrapped_eq_ok h).1

theorem spaced_of_nextItem_false (h : nextItem first cs = .ok (false, rest)) :
    Spaced [[']']] cs rest := by
  unfold nextItem at h
  split at h
  · contradiction
  · rename_i hskip
    obtain ⟨-, rfl⟩ := Prod.mk.inj (Except.ok.inj h)
    exact .single hskip
  · split at h
    · simp at h
    · split at h
      · contradiction
      · split at h <;> simp at h

/-- An item that is found stands behind its comma. -/
theorem spaced_of_nextItem_true (h : nextItem first cs = .ok (true, cs₁)) {token : List Char}
    {tokens : List (List Char)} (hitem : Spaced (token :: tokens) cs₁ rest) :
    Spaced (Source.comma first ++ token :: tokens) cs rest := by
  unfold nextItem at h
  split at h
  · contradiction
  · simp at h
  · rename_i c cs' _ hskip
    split at h
    · rename_i hfirst
      obtain ⟨-, rfl⟩ := Prod.mk.inj (Except.ok.inj h)
      rw [hfirst]
      exact .of_skipBlanks (hskip ▸ hitem)
    · rename_i hfirst
      split at h
      · contradiction
      · rename_i hcomma
        rw [not_not.1 hcomma] at hskip
        rw [Bool.eq_false_of_not_eq_true hfirst]
        split at h
        · contradiction
        · contradiction
        · obtain ⟨-, rfl⟩ := Prod.mk.inj (Except.ok.inj h)
          exact .append (.single hskip) (.of_skipBlanks hitem)

/-- A name behind blanks, as `nextName` reads it once a comma is passed. -/
theorem exists_token_of_name {name : Option String}
    (h : (match skipBlanks cs with
      | [] => .error .truncated
      | '"' :: rest => (scanText rest).map fun (s, rest) => (some s, rest)
      | _ :: _ => .error .malformed) = Except.ok (name, rest)) :
    ∃ t : StringToken, t.value? = name ∧ name.isSome ∧ Spaced [t.text] cs rest := by
  split at h
  · contradiction
  · rename_i hskip
    obtain ⟨⟨s, rest'⟩, hscan, heq⟩ := map_eq_ok.1 h
    obtain ⟨rfl, rfl⟩ := Prod.mk.inj heq
    obtain ⟨t, hvalue, rfl⟩ := exists_token_of_scanText hscan
    exact ⟨t, hvalue, rfl, .string hskip⟩
  · contradiction

theorem spaced_of_nextName {name : Option String} (h : nextName first cs = .ok (name, rest)) :
    (name = none ∧ Spaced [['}']] cs rest) ∨
      ∃ t : StringToken, t.value? = name ∧ name.isSome ∧
        Spaced (Source.comma first ++ [t.text]) cs rest := by
  unfold nextName at h
  split at h
  · contradiction
  · rename_i hskip
    obtain ⟨rfl, rfl⟩ := Prod.mk.inj (Except.ok.inj h)
    exact Or.inl ⟨rfl, .single hskip⟩
  · rename_i c cs' _ hskip
    split at h
    · rename_i hfirst
      obtain ⟨t, hvalue, hsome, hspaced⟩ := exists_token_of_name h
      rw [hfirst]
      exact Or.inr ⟨t, hvalue, hsome, .of_skipBlanks (hskip ▸ hspaced)⟩
    · rename_i hfirst
      split at h
      · rename_i hcomma
        obtain ⟨t, hvalue, hsome, hspaced⟩ := exists_token_of_name h
        rw [hcomma] at hskip
        rw [Bool.eq_false_of_not_eq_true hfirst]
        exact Or.inr ⟨t, hvalue, hsome, .append (.single hskip) hspaced⟩
      · contradiction

theorem spaced_of_nextName_none (h : nextName first cs = .ok (none, rest)) :
    Spaced [['}']] cs rest := by
  rcases spaced_of_nextName h with ⟨-, hspaced⟩ | ⟨t, -, hsome, -⟩
  · exact hspaced
  · contradiction

theorem exists_token_of_nextName {name : String} (h : nextName first cs = .ok (some name, rest)) :
    ∃ t : StringToken, t.value? = some name ∧ Spaced (Source.comma first ++ [t.text]) cs rest := by
  rcases spaced_of_nextName h with ⟨hnone, -⟩ | ⟨t, hvalue, -, hspaced⟩
  · contradiction
  · exact ⟨t, hvalue, hspaced⟩

theorem exists_token_of_readString {s : String} (h : readString cs = .ok (s, rest)) :
    ∃ t : StringToken, t.value? = some s ∧ Spaced [t.text] cs rest := by
  unfold readString at h
  split at h
  · rename_i cs' hskip
    obtain ⟨t, hvalue, rfl⟩ := exists_token_of_scanText h
    exact ⟨t, hvalue, .string hskip⟩
  · contradiction

private theorem exists_token_of_wrapped? {w : Wrapped} (h : wrapped? cs = some (w, cs₁)) :
    ∃ t : StringToken, Spaced [t.text] cs cs₁ := by
  unfold wrapped? at h
  split at h
  · rename_i hnext
    obtain ⟨_, -, heq⟩ := Option.map_eq_some_iff.1 h
    obtain ⟨-, rfl⟩ := Prod.mk.inj heq
    obtain ⟨t, -, hspaced⟩ := exists_token_of_nextName hnext
    exact ⟨t, hspaced⟩
  · contradiction

theorem exists_token_of_readWrapped {s : String} (h : readWrapped cs = .ok (s, rest)) :
    ∃ t : StringToken, t.value? = some s ∧ Spaced [[':'], t.text] cs rest := by
  obtain ⟨cs₁, hcolon, h⟩ := bind_eq_ok.1 h
  obtain ⟨t, hvalue, hspaced⟩ := exists_token_of_readString h
  exact ⟨t, hvalue, .append (spaced_of_scanColon hcolon) hspaced⟩

private theorem exists_token_of_readWrappedNumber {n : Number}
    (h : readWrappedNumber cs = .ok (n, rest)) :
    ∃ t : StringToken, Spaced [[':'], t.text, ['}']] cs rest := by
  obtain ⟨⟨s, cs₁⟩, hwrapped, h⟩ := bind_eq_ok.1 h
  obtain ⟨t, -, hspaced⟩ := exists_token_of_readWrapped hwrapped
  dsimp only at h
  split at h
  · exact ⟨t, .append hspaced (spaced_of_closeWrapped h)⟩
  · contradiction

end Pieces

/-- How the text of a value begins: what is read at once and does not depend on the steps that may
be taken, and what is left to the readers that share them. -/
inductive Opens (depth : Nat) (cs : List Char) : Prop
  | alone (result : Except Fault (Scanned Json))
    (hread : ∀ fuel, readSteps (fuel + 1) depth cs = result)
    (hspaced : ∀ v rest, result = .ok (v, rest) → ∃ x : Source, Spaced x.tokens cs rest)
  | items (cs₁ : List Char) (hspaced : Spaced [['[']] cs cs₁)
    (hread : ∀ fuel, readSteps (fuel + 1) depth cs = readItems fuel (depth - 1) [] cs₁)
  | members (cs₁ : List Char) (hspaced : Spaced [['{']] cs cs₁)
    (hread : ∀ fuel, readSteps (fuel + 1) depth cs = readMembers fuel (depth - 1) true [] cs₁)
  | wrapped (t : StringToken) (cs₁ : List Char) (hspaced : Spaced [['{'], t.text] cs cs₁)
    (hread : ∀ fuel, readSteps (fuel + 1) depth cs = readWrappedValue fuel cs₁)

namespace Opens

variable {depth : Nat} {cs rest : List Char}

theorem of_error (fault : Fault) (hread : ∀ fuel, readSteps (fuel + 1) depth cs = .error fault) :
    Opens depth cs :=
  .alone _ hread nofun

theorem of_literal (v : Json) (x : Source) {first : Char} (word : List Char)
    (hskip : skipBlanks cs = first :: rest) (hx : x.tokens = [first :: word])
    (hread : ∀ fuel, readSteps (fuel + 1) depth cs = (scanLiteral word rest).map (v, ·)) :
    Opens depth cs := by
  refine .alone _ hread fun w after h => ⟨x, ?_⟩
  obtain ⟨after', hscan, heq⟩ := map_eq_ok.1 h
  obtain ⟨-, rfl⟩ := Prod.mk.inj heq
  rw [hx]
  refine .single ?_
  rw [hskip, eq_of_scanLiteral hscan, List.cons_append]

private theorem of_number (hskip : skipBlanks cs = rest)
    (hread : ∀ fuel, readSteps (fuel + 1) depth cs =
      (scanNumber .truncated rest).map fun (n, rest) => (.number n, rest)) : Opens depth cs := by
  refine .alone _ hread fun w after h => ?_
  obtain ⟨⟨n, after'⟩, hscan, heq⟩ := map_eq_ok.1 h
  obtain ⟨-, rfl⟩ := Prod.mk.inj heq
  obtain ⟨t, -, hspelled⟩ := exists_token_of_scanNumber hscan
  exact ⟨.number t, .single (hskip.trans hspelled)⟩

private theorem of_string (hskip : skipBlanks cs = '"' :: rest)
    (hread : ∀ fuel, readSteps (fuel + 1) depth cs =
      (scanText rest).map fun (s, rest) => (.string s, rest)) : Opens depth cs := by
  refine .alone _ hread fun w after h => ?_
  obtain ⟨⟨s, after'⟩, hscan, heq⟩ := map_eq_ok.1 h
  obtain ⟨-, rfl⟩ := Prod.mk.inj heq
  obtain ⟨t, -, rfl⟩ := exists_token_of_scanText hscan
  exact ⟨.string t, .string hskip⟩

private theorem of_brace (hskip : skipBlanks cs = '{' :: rest) (hdepth : depth ≠ 0) :
    Opens depth cs := by
  have hbrace : Spaced [['{']] cs rest := .single hskip
  cases hwrapped : wrapped? rest with
  | none =>
    refine .members rest hbrace fun fuel => ?_
    rw [readSteps, hskip]
    simp only [if_neg hdepth, hwrapped]
  | some found =>
    obtain ⟨w, cs₁⟩ := found
    obtain ⟨name, hname⟩ := exists_token_of_wrapped? hwrapped
    cases w with
    | number =>
      refine .alone ((readWrappedNumber cs₁).map fun (n, rest) => (.number n, rest))
        (fun fuel => ?_) fun v after h => ?_
      · rw [readSteps, hskip]
        simp only [if_neg hdepth, hwrapped]
      · obtain ⟨⟨n, after'⟩, hread, heq⟩ := map_eq_ok.1 h
        obtain ⟨-, rfl⟩ := Prod.mk.inj heq
        obtain ⟨t, hspaced⟩ := exists_token_of_readWrappedNumber hread
        exact ⟨.object [(name, .string t)], .append hbrace (.append hname hspaced)⟩
    | value =>
      refine .wrapped name cs₁ (.append hbrace hname) fun fuel => ?_
      rw [readSteps, hskip]
      simp only [if_neg hdepth, hwrapped]

end Opens

theorem opens_readSteps (depth : Nat) (cs : List Char) : Opens depth cs := by
  cases hskip : skipBlanks cs with
  | nil => exact .of_error .truncated fun fuel => by rw [readSteps, hskip]
  | cons c rest =>
    by_cases hn : c = 'n'
    · subst hn
      exact .of_literal .null .null "ull".toList hskip rfl fun fuel => by rw [readSteps, hskip]; rfl
    by_cases ht : c = 't'
    · subst ht
      exact .of_literal (.bool true) (.bool true) "rue".toList hskip rfl fun fuel => by
        rw [readSteps, hskip]; rfl
    by_cases hf : c = 'f'
    · subst hf
      exact .of_literal (.bool false) (.bool false) "alse".toList hskip rfl fun fuel => by
        rw [readSteps, hskip]; rfl
    by_cases hquote : c = '"'
    · subst hquote
      exact .of_string hskip fun fuel => by rw [readSteps, hskip]; rfl
    by_cases hbracket : c = '['
    · subst hbracket
      by_cases hdepth : depth = 0
      · exact .of_error .malformed fun fuel => by rw [readSteps, hskip]; exact if_pos hdepth
      · exact .items rest (.single hskip) fun fuel => by rw [readSteps, hskip]; exact if_neg hdepth
    by_cases hbrace : c = '{'
    · subst hbrace
      by_cases hdepth : depth = 0
      · exact .of_error .malformed fun fuel => by rw [readSteps, hskip]; exact if_pos hdepth
      · exact .of_brace hskip hdepth
    by_cases hnumber : c = '-' ∨ (digit? c).isSome
    · exact .of_number hskip fun fuel => by rw [readSteps, hskip]; simp [*]
    · exact .of_error .malformed fun fuel => by rw [readSteps, hskip]; simp [*]

/-- Every value begins with a token whose first character is neither blank nor the end of an
array. -/
theorem Source.exists_tokens_eq_cons (x : Source) :
    ∃ (c : Char) (cs : List Char) (tokens : List (List Char)), x.tokens = (c :: cs) :: tokens ∧
      isBlank c = false ∧ c ≠ ']' := by
  cases x with
  | null => exact ⟨'n', "ull".toList, [], rfl, by decide, by decide⟩
  | bool b => cases b with
    | false => exact ⟨'f', "alse".toList, [], rfl, by decide, by decide⟩
    | true => exact ⟨'t', "rue".toList, [], rfl, by decide, by decide⟩
  | number t =>
    obtain ⟨c, cs, htext, hc⟩ := t.exists_text_eq_cons
    exact ⟨c, cs, [], congrArg (fun token => [token]) htext, isBlank_of_number hc⟩
  | string t => exact ⟨'"', _, [], rfl, by decide, by decide⟩
  | array items => exact ⟨'[', [], _, rfl, by decide, by decide⟩
  | object ms => exact ⟨'{', [], _, rfl, by decide, by decide⟩

theorem Source.length_lt_of_spaced {x : Source} {cs rest : List Char}
    (h : Spaced x.tokens cs rest) : rest.length < cs.length := by
  obtain ⟨c, token, tokens, htokens, -, -⟩ := x.exists_tokens_eq_cons
  exact h.length_lt (by simp [htokens])

theorem Source.itemTokens_cons_append (first : Bool) (x : Source) (items : List Source)
    (more : List (List Char)) :
    itemTokens first (x :: items) ++ more =
      comma first ++ (x.tokens ++ (itemTokens false items ++ more)) := by
  simp [itemTokens]

theorem Source.memberTokens_cons_append (first : Bool) (m : StringToken × Source)
    (ms : List (StringToken × Source)) (more : List (List Char)) :
    memberTokens first (m :: ms) ++ more =
      (comma first ++ [m.1.text]) ++ ([[':']] ++ (m.2.tokens ++ (memberTokens false ms ++ more))) := by
  simp [memberTokens]

/-- An item that is read stands behind its comma. -/
theorem Source.spaced_of_nextItem {first : Bool} {cs cs₁ rest : List Char} {x : Source}
    {more : List (List Char)} (h : nextItem first cs = .ok (true, cs₁))
    (hx : Spaced (x.tokens ++ more) cs₁ rest) :
    Spaced (comma first ++ (x.tokens ++ more)) cs rest := by
  obtain ⟨c, token, tokens, htokens, -⟩ := x.exists_tokens_eq_cons
  rw [htokens, List.cons_append] at hx ⊢
  exact spaced_of_nextItem_true h hx

/-- All that the four readers accept is spelled. -/
theorem spaced_of_fuel (fuel : Nat) :
    (∀ {depth cs v rest}, readSteps fuel depth cs = .ok (v, rest) →
      ∃ x : Source, Spaced x.tokens cs rest) ∧
    (∀ {depth done cs v rest}, readItems fuel depth done cs = .ok (v, rest) →
      ∃ items, Spaced (Source.itemTokens done.isEmpty items ++ [[']']]) cs rest) ∧
    (∀ {depth first done cs v rest}, readMembers fuel depth first done cs = .ok (v, rest) →
      ∃ ms, Spaced (Source.memberTokens first ms ++ [['}']]) cs rest) ∧
    (∀ {cs v rest}, readWrappedValue fuel cs = .ok (v, rest) →
      ∃ t : StringToken, Spaced [[':'], t.text, ['}']] cs rest) := by
  induction fuel with
  | zero => simp [readSteps, readItems, readMembers, readWrappedValue]
  | succ fuel ih =>
    obtain ⟨hsteps, hitems, hmembers, hwrappedValue⟩ := ih
    refine ⟨fun {depth cs v rest} h => ?_, fun h => ?_, fun h => ?_, fun h => ?_⟩
    · cases opens_readSteps depth cs with
      | alone result hread hspaced => exact hspaced v rest ((hread fuel).symm.trans h)
      | items cs₁ hspaced hread =>
        obtain ⟨items, hrest⟩ := hitems ((hread fuel).symm.trans h)
        exact ⟨.array items, .append hspaced hrest⟩
      | members cs₁ hspaced hread =>
        obtain ⟨ms, hrest⟩ := hmembers ((hread fuel).symm.trans h)
        exact ⟨.object ms, .append hspaced hrest⟩
      | wrapped t cs₁ hspaced hread =>
        obtain ⟨text, hrest⟩ := hwrappedValue ((hread fuel).symm.trans h)
        exact ⟨.object [(t, .string text)], .append hspaced hrest⟩
    · rcases readItems_eq_ok h with ⟨hnext, -⟩ | ⟨item, cs₁, cs₂, hnext, hitem, h⟩
      · exact ⟨[], spaced_of_nextItem_false hnext⟩
      · obtain ⟨x, hx⟩ := hsteps hitem
        obtain ⟨items, hrest⟩ := hitems h
        refine ⟨x :: items, ?_⟩
        rw [Source.itemTokens_cons_append]
        exact Source.spaced_of_nextItem hnext (hx.append hrest)
    · rcases readMembers_eq_ok h with ⟨hnext, -⟩ | ⟨name, _, _, _, _, hnext, hcolon, hmember, h⟩
      · exact ⟨[], spaced_of_nextName_none hnext⟩
      · obtain ⟨t, -, ht⟩ := exists_token_of_nextName hnext
        obtain ⟨x, hx⟩ := hsteps hmember
        obtain ⟨ms, hrest⟩ := hmembers h
        refine ⟨(t, x) :: ms, ?_⟩
        rw [Source.memberTokens_cons_append]
        exact ht.append ((spaced_of_scanColon hcolon).append (hx.append hrest))
    · obtain ⟨text, _, _, hwrapped, -, -, hclose⟩ := readWrappedValue_eq_ok h
      obtain ⟨t, -, ht⟩ := exists_token_of_readWrapped hwrapped
      exact ⟨t, ht.append (spaced_of_closeWrapped hclose)⟩

theorem exists_spaced_of_readSteps {fuel depth : Nat} {cs rest : List Char} {v : Json}
    (h : readSteps fuel depth cs = .ok (v, rest)) : ∃ x : Source, Spaced x.tokens cs rest :=
  (spaced_of_fuel fuel).1 h

section Wanted

variable {cs rest : List Char}

theorem Source.spaced_of_skipBlanks {x : Source} (h : Spaced x.tokens (skipBlanks cs) rest) :
    Spaced x.tokens cs rest := by
  obtain ⟨c, token, tokens, htokens, -⟩ := x.exists_tokens_eq_cons
  rw [htokens] at h ⊢
  exact .of_skipBlanks h

theorem exists_spaced_of_readString {s : String} (h : readString cs = .ok (s, rest)) :
    ∃ x : Source, Spaced x.tokens cs rest := by
  obtain ⟨t, -, ht⟩ := exists_token_of_readString h
  exact ⟨.string t, ht⟩

theorem exists_spaced_of_readOptional {s : Option String}
    (h : readOptional readString cs = .ok (s, rest)) : ∃ x : Source, Spaced x.tokens cs rest := by
  unfold readOptional at h
  split at h
  · rename_i hskip
    obtain ⟨rest', hscan, heq⟩ := map_eq_ok.1 h
    obtain ⟨-, rfl⟩ := Prod.mk.inj heq
    exact ⟨.null, .single (by rw [hskip, eq_of_scanLiteral hscan]; rfl)⟩
  · obtain ⟨⟨s', rest'⟩, hread, heq⟩ := map_eq_ok.1 h
    obtain ⟨-, rfl⟩ := Prod.mk.inj heq
    obtain ⟨x, hx⟩ := exists_spaced_of_readString hread
    exact ⟨x, Source.spaced_of_skipBlanks hx⟩

theorem exists_spaced_of_readInteger {least most i : Int}
    (h : readInteger least most cs = .ok (i, rest)) : ∃ x : Source, Spaced x.tokens cs rest := by
  unfold readInteger at h
  split at h
  · contradiction
  · rename_i hskip
    split at h
    · obtain ⟨⟨n, rest'⟩, hscan, hchecks⟩ := bind_eq_ok.1 h
      obtain ⟨t, -, htext⟩ := exists_token_of_scanNumber hscan
      dsimp only at hchecks
      split at hchecks
      · contradiction
      split at hchecks
      · split at hchecks
        · contradiction
        · obtain ⟨-, rfl⟩ := Prod.mk.inj (Except.ok.inj hchecks)
          exact ⟨.number t, .single (hskip.trans htext)⟩
      · contradiction
    · contradiction

theorem exists_spaced_of_readObject {depth : Nat} {ms : Members}
    (h : readObject depth cs = .ok (ms, rest)) : ∃ x : Source, Spaced x.tokens cs rest := by
  unfold readObject at h
  split at h
  · rename_i hskip
    split at h
    · contradiction
    · obtain ⟨⟨v, rest'⟩, hread, hmembers⟩ := bind_eq_ok.1 h
      obtain ⟨members, hspaced⟩ := (spaced_of_fuel _).2.2.1 hread
      split at hmembers
      · rename_i heq
        obtain ⟨-, rfl⟩ := Prod.mk.inj heq
        obtain ⟨-, rfl⟩ := Prod.mk.inj (Except.ok.inj hmembers)
        exact ⟨.object members, .append (.single hskip) hspaced⟩
      · contradiction
  · contradiction

end Wanted

section Steps

variable {cs rest : List Char} {s : String}

/-- A string has no more characters than its spelling. -/
theorem StringToken.length_chars?_le {parts : StringToken} {high : Option Nat} {chars : List Char}
    (h : parts.chars? high = some chars) : chars.length ≤ parts.body.length := by
  induction parts generalizing high chars with
  | nil =>
    cases high with
    | none =>
      obtain rfl := Option.some.inj h
      exact Nat.zero_le _
    | some high => contradiction
  | cons part parts ih =>
    have hrest : ∀ {c : Char} {chars : List Char}, (chars? none parts).map (c :: ·) = some chars →
        chars.length ≤ (StringToken.body parts).length + 1 := by
      intro c chars h
      obtain ⟨cs, hcs, rfl⟩ := Option.map_eq_some_iff.1 h
      exact Nat.succ_le_succ (ih hcs)
    rw [body_cons, List.length_append]
    cases part with
    | plain c hc =>
      cases high with
      | none => exact (hrest h).trans (by rw [StringPart.text, List.length_singleton]; omega)
      | some high => contradiction
    | short letter c hc =>
      cases high with
      | none => exact (hrest h).trans (by simp only [StringPart.text, List.length_cons]; omega)
      | some high => contradiction
    | code hex =>
      have htext : 6 = (StringPart.code hex).text.length := rfl
      cases high with
      | none =>
        rw [chars?] at h
        split at h
        · exact (ih h).trans (Nat.le_add_left _ _)
        · split at h
          · contradiction
          · exact (hrest h).trans (by omega)
      | some high =>
        rw [chars?] at h
        split at h
        · exact (hrest h).trans (by omega)
        · contradiction

private theorem length_of_readWrapped (h : readWrapped cs = .ok (s, rest)) :
    s.toList.length + rest.length < cs.length := by
  obtain ⟨t, hvalue, hspaced⟩ := exists_token_of_readWrapped h
  obtain ⟨chars, hchars, rfl⟩ := Option.map_eq_some_iff.1 hvalue
  have hshort := StringToken.length_chars?_le hchars
  have hlength := hspaced.length_le
  simp only [List.flatten_cons, List.flatten_nil, List.length_append, List.length_cons,
    StringToken.text, List.length_nil] at hlength
  rw [String.toList_ofList]
  omega

private theorem length_le_of_nextItem {first : Bool} (h : nextItem first cs = .ok (true, rest)) :
    rest.length ≤ cs.length := by
  have hempty : Spaced [[]] rest rest := .token [] (.nil rest)
  have hlength := (spaced_of_nextItem_true h hempty).length_le
  omega

/-- Two steps for each character that is read are enough, however many were allowed before. -/
def Enough (read : Nat → Except Fault (Scanned Json)) (cs : List Char) (v : Json)
    (rest : List Char) : Prop :=
  ∀ fuel, 2 * (cs.length - rest.length) ≤ fuel → read fuel = .ok (v, rest)

theorem enough_of_fuel (fuel : Nat) :
    (∀ {depth cs v rest}, readSteps fuel depth cs = .ok (v, rest) →
      Enough (readSteps · depth cs) cs v rest) ∧
    (∀ {depth done cs v rest}, readItems fuel depth done cs = .ok (v, rest) →
      Enough (readItems · depth done cs) cs v rest) ∧
    (∀ {depth first done cs v rest}, readMembers fuel depth first done cs = .ok (v, rest) →
      Enough (readMembers · depth first done cs) cs v rest) ∧
    (∀ {cs v rest}, readWrappedValue fuel cs = .ok (v, rest) →
      Enough (readWrappedValue · cs) cs v rest) := by
  induction fuel with
  | zero => simp [readSteps, readItems, readMembers, readWrappedValue]
  | succ fuel ih =>
    obtain ⟨hsteps, hitems, hmembers, hwrappedValue⟩ := ih
    refine ⟨fun {depth cs v rest} h more hmore => ?_, fun h more hmore => ?_,
      fun h more hmore => ?_, fun h more hmore => ?_⟩
    · obtain ⟨x, hx⟩ := exists_spaced_of_readSteps h
      have hshorter := Source.length_lt_of_spaced hx
      obtain ⟨more, rfl⟩ := Nat.exists_eq_add_one_of_ne_zero (n := more) (by omega)
      cases opens_readSteps depth cs with
      | alone result hread _ => exact (hread more).trans ((hread fuel).symm.trans h)
      | items cs₁ hspaced hread =>
        have hlength : cs₁.length + 1 ≤ cs.length := by simpa [Nat.add_comm] using hspaced.length_le
        exact (hread more).trans (hitems ((hread fuel).symm.trans h) more (by omega))
      | members cs₁ hspaced hread =>
        have hlength : cs₁.length + 1 ≤ cs.length := by simpa [Nat.add_comm] using hspaced.length_le
        exact (hread more).trans (hmembers ((hread fuel).symm.trans h) more (by omega))
      | wrapped t cs₁ hspaced hread =>
        have hlength := hspaced.length_le
        rw [List.flatten_cons, List.length_append, List.length_singleton] at hlength
        exact (hread more).trans (hwrappedValue ((hread fuel).symm.trans h) more (by omega))
    · obtain ⟨items, hall⟩ := (spaced_of_fuel _).2.1 h
      have hshorter := hall.length_lt (by simp)
      obtain ⟨more, rfl⟩ := Nat.exists_eq_add_one_of_ne_zero (n := more) (by omega)
      rcases readItems_eq_ok h with ⟨hnext, rfl⟩ | ⟨item, cs₁, cs₂, hnext, hitem, hrest⟩
      · simp only [readItems, hnext]
      · obtain ⟨x, hx⟩ := exists_spaced_of_readSteps hitem
        obtain ⟨items, hspaced⟩ := (spaced_of_fuel _).2.1 hrest
        have hfirst := length_le_of_nextItem hnext
        have hsecond := Source.length_lt_of_spaced hx
        have hthird := hspaced.length_lt (by simp)
        have hagain := hsteps hitem more (by omega)
        have hlater := hitems hrest more (by omega)
        simp only [readItems, hnext, hagain, hlater]
    · obtain ⟨ms, hall⟩ := (spaced_of_fuel _).2.2.1 h
      have hshorter := hall.length_lt (by simp)
      obtain ⟨more, rfl⟩ := Nat.exists_eq_add_one_of_ne_zero (n := more) (by omega)
      rcases readMembers_eq_ok h with
        ⟨hnext, rfl⟩ | ⟨name, member, cs₁, cs₂, cs₃, hnext, hcolon, hmember, hrest⟩
      · simp only [readMembers, hnext]
      · obtain ⟨t, -, ht⟩ := exists_token_of_nextName hnext
        obtain ⟨x, hx⟩ := exists_spaced_of_readSteps hmember
        obtain ⟨ms, hspaced⟩ := (spaced_of_fuel _).2.2.1 hrest
        have hfirst := ht.length_le
        have hsecond := (spaced_of_scanColon hcolon).length_lt (by simp)
        have hthird := Source.length_lt_of_spaced hx
        have hfourth := hspaced.length_lt (by simp)
        have hagain := hsteps hmember more (by omega)
        have hlater := hmembers hrest more (by omega)
        simp only [readMembers, hnext, hcolon, hagain, hlater]
    · obtain ⟨text, cs₁, cs₂, hwrapped, hvalue, hend, hclose⟩ := readWrappedValue_eq_ok h
      have hfirst := length_of_readWrapped hwrapped
      have hsecond := (spaced_of_closeWrapped hclose).length_lt (by simp)
      obtain ⟨more, rfl⟩ := Nat.exists_eq_add_one_of_ne_zero (n := more) (by omega)
      have hagain := hsteps hvalue more (by omega)
      simp only [readWrappedValue, hwrapped, bind, Except.bind, hagain, if_pos hend, hclose]

end Steps

end PlaybackRelay.Json

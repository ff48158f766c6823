import PlaybackRelay.Proofs.Json.Skip

/-!
The text that is written of a value is a spelling without blanks. Main statements:
`spelled_text` and `skipValue_text`.
-/
namespace PlaybackRelay.Json

open Source (itemTokens memberTokens)

/-- The text is that of a value, whatever follows. -/
def Spelled (cs : List Char) : Prop :=
  ∃ x : Source, ∀ rest, Spaced x.tokens (cs ++ rest) rest

theorem Spelled.of_token {x : Source} {token : List Char} (h : x.tokens = [token]) :
    Spelled token := by
  refine ⟨x, fun rest => ?_⟩
  rw [h]
  exact .token token (.nil rest)

theorem exists_token_quote (s : String) : ∃ t : StringToken, t.text = quote s := by
  obtain ⟨cs, hquote, hscan⟩ := scanString_quote s []
  obtain ⟨t, -, rfl⟩ := exists_token_of_scanText (hscan true)
  exact ⟨t, by rw [← List.append_nil (quote s), hquote]; rfl⟩

private theorem exists_token_number (n : Number) : ∃ t : NumberToken, t.text = n.text := by
  obtain ⟨t, -, htext⟩ := exists_token_of_scanNumber (scanNumber_text .truncated n delimited_nil)
  exact ⟨t, by simpa using htext.symm⟩

theorem spaced_comma (first : Bool) (item : List Char) (items : List (List Char))
    (rest : List Char) :
    ∃ cs, listed first (item :: items) ++ rest = cs ++ (item ++ (behind items ++ rest)) ∧
      Spaced (Source.comma first) (cs ++ (item ++ (behind items ++ rest)))
        (item ++ (behind items ++ rest)) := by
  cases first with
  | true => exact ⟨[], by simp, .nil _⟩
  | false => exact ⟨[','], by simp, .token [','] (.nil _)⟩

private theorem exists_spaced_items {items : List Json} (h : ∀ v ∈ items, Spelled v.text)
    (first : Bool) :
    ∃ xs, ∀ rest, Spaced (itemTokens first xs) (listed first (itemTexts items) ++ rest) rest := by
  induction items generalizing first with
  | nil =>
    refine ⟨[], fun rest => ?_⟩
    rw [itemTexts, listed_nil, List.nil_append]
    exact .nil rest
  | cons v items ih =>
    obtain ⟨⟨x, hx⟩, hitems⟩ := List.forall_mem_cons.1 h
    obtain ⟨xs, hxs⟩ := ih hitems false
    refine ⟨x :: xs, fun rest => ?_⟩
    obtain ⟨cs, hlisted, hcomma⟩ := spaced_comma first v.text (itemTexts items) rest
    rw [itemTexts, hlisted, itemTokens]
    exact hcomma.append ((hx _).append (hxs rest))

private theorem exists_spaced_members {ms : List (String × Json)} (h : ∀ m ∈ ms, Spelled m.2.text)
    (first : Bool) : ∃ xs, ∀ rest,
      Spaced (memberTokens first xs) (listed first (memberTexts ms) ++ rest) rest := by
  induction ms generalizing first with
  | nil =>
    refine ⟨[], fun rest => ?_⟩
    rw [memberTexts, listed_nil, List.nil_append]
    exact .nil rest
  | cons m ms ih =>
    obtain ⟨⟨x, hx⟩, hms⟩ := List.forall_mem_cons.1 h
    obtain ⟨xs, hxs⟩ := ih hms false
    obtain ⟨name, hname⟩ := exists_token_quote m.1
    refine ⟨(name, x) :: xs, fun rest => ?_⟩
    obtain ⟨cs, hlisted, hcomma⟩ := spaced_comma first (memberText m) (memberTexts ms) rest
    rw [memberTexts, ← memberText, hlisted, memberTokens]
    refine hcomma.append ?_
    rw [memberText, ← hname, List.append_assoc, List.cons_append]
    exact .token name.text (.token [':'] ((hx _).append (hxs rest)))

theorem spelled_text (v : Json) : Spelled v.text := by
  induction v using inductionOn with
  | null => exact .of_token (x := .null) rfl
  | bool b => cases b with
    | false => exact .of_token (x := .bool false) rfl
    | true => exact .of_token (x := .bool true) rfl
  | number n =>
    obtain ⟨t, ht⟩ := exists_token_number n
    exact .of_token (x := .number t) (by rw [Source.tokens, ht]; rfl)
  | string s =>
    obtain ⟨t, ht⟩ := exists_token_quote s
    exact .of_token (x := .string t) (by rw [Source.tokens, ht]; rfl)
  | array items ih =>
    obtain ⟨xs, hxs⟩ := exists_spaced_items ih true
    refine ⟨.array xs, fun rest => ?_⟩
    have hclose : Spaced [[']']] (']' :: rest) rest := .token [']'] (.nil rest)
    rw [text_array, List.cons_append, List.append_assoc]
    exact .token ['['] ((hxs _).append hclose)
  | object ms ih =>
    obtain ⟨xs, hxs⟩ := exists_spaced_members ih true
    refine ⟨.object xs, fun rest => ?_⟩
    have hclose : Spaced [['}']] ('}' :: rest) rest := .token ['}'] (.nil rest)
    rw [text_object, List.cons_append, List.append_assoc]
    exact .token ['{'] ((hxs _).append hclose)

/-- Whatever value was written, it is passed over. -/
theorem skipValue_text (v : Json) {rest : List Char} (h : Delimited rest) :
    skipValue (v.text ++ rest) = .ok rest := by
  obtain ⟨x, hx⟩ := spelled_text v
  exact skipValue_of_spaced (hx rest) h

end PlaybackRelay.Json

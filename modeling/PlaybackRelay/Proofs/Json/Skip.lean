import PlaybackRelay.Json.Skip
import PlaybackRelay.Proofs.Json.Denotation

/-!
A spelled value is passed over to its end, however deep its containers lie inside each other and
whatever it denotes, if anything. Main statement: `skipValue_of_spaced`.
-/
namespace PlaybackRelay.Json

open Source (comma itemTokens memberTokens)

/-- What follows a complete value: nothing if it stood alone, or the rest of its container. -/
def resume (fuel : Nat) (stack : List Bracket) (rest : List Char) : Except Fault (List Char) :=
  if stack.isEmpty then .ok rest else skipSteps fuel .complete stack rest

/-- Passing over the value takes fewer than two steps for each character, whatever is open and
whatever follows. -/
def Skipped (x : Source) : Prop :=
  ∃ steps, steps + 1 ≤ 2 * x.tokens.flatten.length ∧
    ∀ (fuel : Nat) (stack : List Bracket) {cs rest : List Char}, Spaced x.tokens cs rest →
      Delimited rest → skipSteps (fuel + steps) .value stack cs = resume fuel stack rest

/-- The state in front of the first item and in front of any other one. -/
def itemState (first : Bool) : SkipState := if first then .opened else .complete

def Bracket.opening : Bracket → Char
  | .square => '['
  | .curly => '{'

/-- What stands in front of a value in its container: the name of a member, and nothing in front of
an item. -/
def label : Option StringToken → List (List Char)
  | none => []
  | some name => [name.text, [':']]

/-- The items of an array and the members of an object alike. -/
def entryTokens (first : Bool) : List (Option StringToken × Source) → List (List Char)
  | [] => []
  | (name, x) :: entries =>
    comma first ++ (label name ++ (x.tokens ++ entryTokens false entries))

theorem itemTokens_eq (first : Bool) (items : List Source) :
    itemTokens first items = entryTokens first (items.map (none, ·)) := by
  induction items generalizing first with
  | nil => rfl
  | cons x items ih => rw [itemTokens, ih, List.map_cons, entryTokens, label, List.nil_append]

theorem memberTokens_eq (first : Bool) (ms : List (StringToken × Source)) :
    memberTokens first ms = entryTokens first (ms.map fun m => (some m.1, m.2)) := by
  induction ms generalizing first with
  | nil => rfl
  | cons m ms ih => rw [memberTokens, ih, List.map_cons, entryTokens]; rfl

section Pieces

variable {cs mid rest : List Char} {bracket : Bracket} {stack : List Bracket} {fuel : Nat}

private theorem isBlank_closing (bracket : Bracket) : isBlank bracket.closing = false := by
  cases bracket <;> decide

private theorem delimited_closing (bracket : Bracket) (rest : List Char) :
    Delimited (bracket.closing :: rest) := by
  cases bracket with
  | square => exact delimited_bracket rest
  | curly => exact delimited_brace rest

private theorem delimited_entries {entries : List (Option StringToken × Source)}
    (h : Spaced (entryTokens false entries ++ [[bracket.closing]]) cs rest) : Delimited cs := by
  cases entries with
  | nil => exact h.delimited (delimited_closing bracket)
  | cons e entries => exact h.delimited delimited_comma

private theorem skipSteps_close (first : Bool) (h : Spaced [[bracket.closing]] cs rest) :
    skipSteps (fuel + 1) (itemState first) (bracket :: stack) cs = resume fuel stack rest := by
  have hskip : skipBlanks cs = bracket.closing :: rest := h.skipBlanks_eq (isBlank_closing bracket)
  cases first with
  | true => simp [itemState, skipSteps, hskip, resume]
  | false => simp [itemState, skipSteps, hskip, resume]

private theorem skipSteps_open (h : skipBlanks cs = bracket.opening :: rest) :
    skipSteps (fuel + 1) .value stack cs = skipSteps fuel .opened (bracket :: stack) rest := by
  cases bracket with
  | square =>
    rw [skipSteps, h]
    rfl
  | curly =>
    rw [skipSteps, h]
    rfl

/-- A member's name is passed over with its colon, whatever it escapes. -/
theorem skipName_of_spaced {name : StringToken} (h : Spaced [name.text, [':']] cs rest) :
    skipName cs = .ok rest := by
  have hsplit : Spaced ([name.text] ++ [[':']]) cs rest := h
  obtain ⟨mid, hname, hcolon⟩ := hsplit.exists_of_append
  obtain ⟨s, hscan⟩ := exists_scanString_body name [] mid
  have hquote := hname.skipBlanks_string
  have hfound : skipBlanks mid = ':' :: rest := hcolon.skipBlanks_eq (by decide)
  simp [skipName, hquote, hscan, hfound, bind, Except.bind]

/-- The value of an entry is reached behind its comma and its name. -/
theorem exists_skipSteps_entry (first : Bool) {name : Option StringToken}
    (hname : name.isSome ↔ bracket = .curly) {x : Source} {tokens : List (List Char)}
    (h : Spaced (comma first ++ (label name ++ (x.tokens ++ tokens))) cs rest) :
    ∃ mid, Spaced (x.tokens ++ tokens) mid rest ∧
      skipSteps (fuel + 1) (itemState first) (bracket :: stack) cs =
        skipSteps fuel .value (bracket :: stack) mid := by
  obtain ⟨cs₁, hcomma, h⟩ := h.exists_of_append
  obtain ⟨cs₂, hlabel, hx⟩ := h.exists_of_append
  cases name with
  | none =>
    obtain rfl : bracket = .square := by
      cases bracket with
      | square => rfl
      | curly => exact absurd (hname.2 rfl) (by simp)
    obtain rfl := hlabel.eq_of_nil
    obtain ⟨c, token, others, htokens, hblank, hc⟩ := x.exists_tokens_eq_cons
    cases first with
    | true =>
      obtain rfl := hcomma.eq_of_nil
      rw [htokens, List.cons_append] at hx ⊢
      obtain ⟨behind, hskip, -⟩ := hx.exists_skipBlanks hblank
      refine ⟨skipBlanks cs, hx.skipBlanks hblank, ?_⟩
      simp [itemState, skipSteps, hskip, Bracket.closing, hc]
    | false =>
      have hfound : skipBlanks cs = ',' :: cs₁ := hcomma.skipBlanks_eq (by decide)
      refine ⟨cs₁, hx, ?_⟩
      simp [itemState, skipSteps, hfound, Bracket.closing]
  | some name =>
    obtain rfl : bracket = .curly := hname.1 rfl
    refine ⟨cs₂, hx, ?_⟩
    cases first with
    | true =>
      obtain rfl := hcomma.eq_of_nil
      have hquote : isBlank '"' = false := by decide
      obtain ⟨behind, hskip, -⟩ := hlabel.exists_skipBlanks hquote
      have hskipName := skipName_of_spaced (hlabel.skipBlanks hquote)
      rw [hskip] at hskipName
      simp only [itemState, if_true, skipSteps, hskip, hskipName, Bracket.closing, bind,
        Except.bind]
      rfl
    | false =>
      have hfound : skipBlanks cs = ',' :: cs₁ := hcomma.skipBlanks_eq (by decide)
      have hskipName := skipName_of_spaced hlabel
      simp [itemState, skipSteps, hfound, Bracket.closing, hskipName, bind, Except.bind]

end Pieces

/-- Any number of entries up to the bracket that closes their container. -/
theorem exists_skipSteps_entries {bracket : Bracket} {entries : List (Option StringToken × Source)}
    (hnames : ∀ e ∈ entries, (e.1.isSome ↔ bracket = .curly))
    (hentries : ∀ e ∈ entries, Skipped e.2) (first : Bool) :
    ∃ steps, steps ≤ 2 * (entryTokens first entries).flatten.length + 1 ∧
      ∀ (fuel : Nat) (stack : List Bracket) {cs rest : List Char},
        Spaced (entryTokens first entries ++ [[bracket.closing]]) cs rest →
          skipSteps (fuel + steps) (itemState first) (bracket :: stack) cs =
            resume fuel stack rest := by
  induction entries generalizing first with
  | nil => exact ⟨1, by omega, fun fuel stack _ _ h => skipSteps_close first h⟩
  | cons e entries ih =>
    obtain ⟨name, x⟩ := e
    obtain ⟨hname, hnames⟩ := List.forall_mem_cons.1 hnames
    obtain ⟨hx, hentries⟩ := List.forall_mem_cons.1 hentries
    obtain ⟨valueSteps, hvalueSteps, hvalue⟩ : Skipped x := hx
    obtain ⟨restSteps, hrestSteps, hrest⟩ := ih hnames hentries false
    have htotal : x.tokens.flatten.length + (entryTokens false entries).flatten.length ≤
        (entryTokens first ((name, x) :: entries)).flatten.length := by
      simp only [entryTokens, List.flatten_append, List.length_append]
      omega
    refine ⟨restSteps + valueSteps + 1, by omega, fun fuel stack cs rest h => ?_⟩
    simp only [entryTokens, List.append_assoc] at h
    obtain ⟨cs₁, h, hentry⟩ := exists_skipSteps_entry first hname h
    obtain ⟨cs₂, hx, hspaced⟩ := h.exists_of_append
    calc
      skipSteps (fuel + (restSteps + valueSteps + 1)) (itemState first) (bracket :: stack) cs =
        skipSteps (fuel + restSteps + valueSteps) .value (bracket :: stack) cs₁ := by
        rw [← Nat.add_assoc, ← Nat.add_assoc]
        exact hentry
      _ = skipSteps (fuel + restSteps) .complete (bracket :: stack) cs₂ :=
        hvalue _ _ hx (delimited_entries hspaced)
      _ = resume fuel stack rest := hrest fuel stack hspaced

/-- A container is opened in one step, and then its entries follow. -/
theorem skipped_container {x : Source} {bracket : Bracket}
    {entries : List (Option StringToken × Source)}
    (hx : x.tokens = [bracket.opening] :: (entryTokens true entries ++ [[bracket.closing]]))
    (hnames : ∀ e ∈ entries, (e.1.isSome ↔ bracket = .curly))
    (hentries : ∀ e ∈ entries, Skipped e.2) : Skipped x := by
  obtain ⟨steps, hsteps, hskip⟩ := exists_skipSteps_entries hnames hentries true
  refine ⟨steps + 1, ?_, fun fuel stack cs rest h _ => ?_⟩
  · simp only [hx, List.flatten_cons, List.flatten_append, List.length_append,
      List.length_singleton]
    omega
  · have hblank : isBlank bracket.opening = false := by cases bracket <;> decide
    rw [hx] at h
    obtain ⟨behind, hopen, h⟩ := h.exists_skipBlanks hblank
    rw [← Nat.add_assoc, skipSteps_open hopen]
    exact hskip fuel stack h

theorem skipped_scalar {x : Source} (h : ∀ {cs rest}, Spaced x.tokens cs rest → Delimited rest →
    ∃ c behind, skipBlanks cs = c :: behind ∧ c ≠ '[' ∧ c ≠ '{' ∧
      skipScalar (c :: behind) = .ok rest) : Skipped x := by
  refine ⟨1, ?_, fun fuel stack cs rest hx hrest => ?_⟩
  · have hpos := x.length_tokens_pos
    omega
  · obtain ⟨c, behind, hskip, hbracket, hbrace, hscalar⟩ := h hx hrest
    rw [skipSteps, hskip]
    split
    · rename_i heq
      exact absurd (List.cons.inj heq).1 hbracket
    · rename_i heq
      exact absurd (List.cons.inj heq).1 hbrace
    · rw [hscalar]
      rfl

private theorem skipped_number (t : NumberToken) : Skipped (.number t) := by
  refine skipped_scalar fun {cs rest} h hrest => ?_
  obtain ⟨c, behind, hc, hskip, hscan⟩ := h.exists_scanNumber hrest
  obtain ⟨hn, ht, hf, hquote, hbracket, hbrace⟩ := ne_of_number hc
  refine ⟨c, behind, hskip, hbracket, hbrace, ?_⟩
  simp [skipScalar, hc, hscan, Except.map]

private theorem skipped_string (t : StringToken) : Skipped (.string t) := by
  refine skipped_scalar fun {cs rest} h _ => ?_
  obtain ⟨s, hscan⟩ := exists_scanString_body t [] rest
  refine ⟨_, _, h.skipBlanks_string, by decide, by decide, ?_⟩
  simp [skipScalar, hscan, Except.map]

theorem skipped (x : Source) : Skipped x := by
  induction x using Source.inductionOn with
  | null =>
    exact skipped_scalar fun h _ => ⟨'n', _, h.skipBlanks_eq (by decide), by decide, by decide,
      scanLiteral_append "ull".toList _⟩
  | bool b =>
    cases b with
    | false =>
      exact skipped_scalar fun h _ => ⟨'f', _, h.skipBlanks_eq (by decide), by decide, by decide,
        scanLiteral_append "alse".toList _⟩
    | true =>
      exact skipped_scalar fun h _ => ⟨'t', _, h.skipBlanks_eq (by decide), by decide, by decide,
        scanLiteral_append "rue".toList _⟩
  | number t => exact skipped_number t
  | string t => exact skipped_string t
  | array items ih =>
    have htokens : (Source.array items).tokens = [Bracket.square.opening] ::
        (entryTokens true (items.map (none, ·)) ++ [[Bracket.square.closing]]) := by
      rw [Source.tokens, itemTokens_eq]
      rfl
    exact skipped_container htokens (List.forall_mem_map.2 fun x _ => by simp)
      (List.forall_mem_map.2 ih)
  | object ms ih =>
    have htokens : (Source.object ms).tokens = [Bracket.curly.opening] ::
        (entryTokens true (ms.map fun m => (some m.1, m.2)) ++ [[Bracket.curly.closing]]) := by
      rw [Source.tokens, memberTokens_eq]
      rfl
    exact skipped_container htokens (List.forall_mem_map.2 fun m _ => by simp)
      (List.forall_mem_map.2 ih)

/-- Whatever value is spelled, it is passed over. -/
theorem skipValue_of_spaced {x : Source} {cs rest : List Char} (h : Spaced x.tokens cs rest)
    (hrest : Delimited rest) : skipValue cs = .ok rest := by
  obtain ⟨steps, hsteps, hskip⟩ := skipped x
  have hlength := h.length_le
  obtain ⟨fuel, hfuel⟩ : ∃ fuel, 2 * cs.length + 2 = fuel + steps :=
    ⟨2 * cs.length + 2 - steps, by omega⟩
  rw [skipValue, hfuel, hskip fuel [] h hrest]
  rfl

end PlaybackRelay.Json

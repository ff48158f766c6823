import PlaybackRelay.Json.Read
import PlaybackRelay.Proofs.Json.Tokens

/-!
The shape of a written value. A container writes its items one after the other, each but the first
behind a comma, so that a reader finds the next one or the end; and no text holds a control
character. Main statement: `text_printable`.
-/
namespace PlaybackRelay.Json

/-- Induction with a hypothesis for each item of an array and each member of an object. -/
@[elab_as_elim]
theorem inductionOn {motive : Json → Prop} (v : Json) (null : motive .null)
    (bool : ∀ b, motive (.bool b)) (number : ∀ n, motive (.number n))
    (string : ∀ s, motive (.string s))
    (array : ∀ items : List Json, (∀ item ∈ items, motive item) → motive (.array items))
    (object : ∀ ms : Members, (∀ m ∈ ms, motive m.2) → motive (.object ms)) : motive v :=
  @Json.rec motive (fun items => ∀ item ∈ items, motive item) (fun ms => ∀ m ∈ ms, motive m.2)
    (fun m => motive m.2) null bool number string array object (by simp)
    (fun _ _ hfirst hrest => List.forall_mem_cons.2 ⟨hfirst, hrest⟩) (by simp)
    (fun _ _ hfirst hrest => List.forall_mem_cons.2 ⟨hfirst, hrest⟩) (fun _ _ hvalue => hvalue) v

/-- A value that holds no other one. -/
inductive Scalar : Json → Prop where
  | null : Scalar .null
  | bool (b : Bool) : Scalar (.bool b)
  | number (n : Number) : Scalar (.number n)
  | string (s : String) : Scalar (.string s)

/-- What stands behind an item: the others, each with a comma in front. -/
def behind (items : List (List Char)) : List Char := items.flatMap (',' :: ·)

/-- The items that are left; the first one of all has no comma in front. -/
def listed (first : Bool) (items : List (List Char)) : List Char :=
  if first then commaSeparated items else behind items

@[simp] theorem behind_nil : behind [] = [] := rfl

@[simp] theorem behind_cons (item : List Char) (items : List (List Char)) :
    behind (item :: items) = ',' :: (item ++ behind items) := rfl

private theorem commaSeparated_cons (item : List Char) (items : List (List Char)) :
    commaSeparated (item :: items) = item ++ behind items := by
  induction items generalizing item with
  | nil => simp [commaSeparated]
  | cons next items ih => rw [commaSeparated, ih, behind_cons]; simp

@[simp] theorem listed_nil (first : Bool) : listed first [] = [] := by cases first <;> rfl

@[simp] theorem listed_true_cons (item : List Char) (items : List (List Char)) :
    listed true (item :: items) = item ++ behind items := commaSeparated_cons item items

@[simp] theorem listed_false (items : List (List Char)) : listed false items = behind items := rfl

theorem text_array (items : List Json) :
    (array items).text = '[' :: (listed true (itemTexts items) ++ [']']) := by
  simp [text, listed]

theorem text_object (ms : List (String × Json)) :
    (object ms).text = '{' :: (listed true (memberTexts ms) ++ ['}']) := by
  simp [text, listed]

private theorem itemTexts_eq_map (items : List Json) : itemTexts items = items.map text := by
  induction items with
  | nil => rfl
  | cons v items ih => rw [itemTexts, ih, List.map_cons]

/-- A member with its name. -/
def memberText (m : String × Json) : List Char := quote m.1 ++ ':' :: m.2.text

private theorem memberTexts_eq_map (ms : List (String × Json)) :
    memberTexts ms = ms.map memberText := by
  induction ms with
  | nil => rfl
  | cons m ms ih => rw [memberTexts, ih, List.map_cons, memberText]

theorem delimited_behind (items : List (List Char)) {rest : List Char} (h : Delimited rest) :
    Delimited (behind items ++ rest) := by
  cases items with
  | nil => exact h
  | cons item items => exact delimited_comma _

theorem isBlank_of_number {c : Char} (h : c = '-' ∨ (digit? c).isSome) :
    isBlank c = false ∧ c ≠ ']' := by
  constructor
  · rcases h with rfl | hdigit
    · decide
    · cases hblank : isBlank c with
      | false => rfl
      | true =>
        simp only [isBlank, Bool.or_eq_true, decide_eq_true_eq] at hblank
        rcases hblank with ((rfl | rfl) | rfl) | rfl <;> contradiction
  · rintro rfl
    rcases h with hminus | hdigit <;> contradiction

/-- Every value begins with a character that is neither blank nor the end of an array. -/
theorem exists_text_eq_cons (v : Json) :
    ∃ (c : Char) (cs : List Char), v.text = c :: cs ∧ isBlank c = false ∧ c ≠ ']' := by
  cases v with
  | null => exact ⟨'n', _, rfl, by decide, by decide⟩
  | bool b => cases b with
    | false => exact ⟨'f', _, rfl, by decide, by decide⟩
    | true => exact ⟨'t', _, rfl, by decide, by decide⟩
  | number n =>
    obtain ⟨c, cs, htext, hc⟩ := n.exists_text_eq_cons
    exact ⟨c, cs, htext, isBlank_of_number hc⟩
  | string s => exact ⟨'"', _, rfl, by decide, by decide⟩
  | array items => exact ⟨'[', _, text_array items, by decide, by decide⟩
  | object ms => exact ⟨'{', _, text_object ms, by decide, by decide⟩

/-- Where a number is expected, nothing else begins. -/
theorem ne_of_number {c : Char} (h : c = '-' ∨ (digit? c).isSome) :
    c ≠ 'n' ∧ c ≠ 't' ∧ c ≠ 'f' ∧ c ≠ '"' ∧ c ≠ '[' ∧ c ≠ '{' := by
  refine ⟨?_, ?_, ?_, ?_, ?_, ?_⟩ <;> rintro rfl <;> revert h <;> decide

theorem length_text_pos (v : Json) : 0 < v.text.length := by
  obtain ⟨c, cs, htext, -⟩ := exists_text_eq_cons v
  rw [htext, List.length_cons]
  omega

theorem skipBlanks_text (v : Json) (rest : List Char) :
    skipBlanks (v.text ++ rest) = v.text ++ rest := by
  obtain ⟨c, cs, htext, hblank, -⟩ := exists_text_eq_cons v
  rw [htext, List.cons_append]
  exact skipBlanks_cons hblank _

theorem nextItem_close (first : Bool) (rest : List Char) :
    nextItem first (']' :: rest) = .ok (false, rest) := rfl

theorem nextItem_listed (first : Bool) (v : Json) (items : List (List Char)) (rest : List Char) :
    nextItem first (listed first (v.text :: items) ++ rest) =
      .ok (true, v.text ++ (behind items ++ rest)) := by
  have hskip := skipBlanks_text v (behind items ++ rest)
  obtain ⟨c, cs, htext, -, hc⟩ := exists_text_eq_cons v
  rw [htext, List.cons_append] at hskip
  cases first with
  | true => simp [nextItem, htext, hskip]
  | false =>
    have hcomma (rest : List Char) : skipBlanks (',' :: rest) = ',' :: rest :=
      skipBlanks_cons (by decide) rest
    simp [nextItem, htext, hskip, hc, hcomma]

theorem nextName_close (first : Bool) (rest : List Char) :
    nextName first ('}' :: rest) = .ok (none, rest) := rfl

theorem nextName_listed (first : Bool) (m : String × Json) (items : List (List Char))
    (rest : List Char) :
    nextName first (listed first (memberText m :: items) ++ rest) =
      .ok (some m.1, ':' :: (m.2.text ++ (behind items ++ rest))) := by
  obtain ⟨cs, hquote, hscan⟩ := scanString_quote m.1 (':' :: (m.2.text ++ (behind items ++ rest)))
  have hmember : memberText m ++ (behind items ++ rest) = '"' :: cs := by
    rw [← hquote, memberText]
    simp
  have hskip : skipBlanks ('"' :: cs) = '"' :: cs := skipBlanks_cons (by decide) cs
  cases first with
  | true =>
    rw [listed_true_cons, List.append_assoc, hmember]
    simp [nextName, hskip, scanText, hscan, Except.map]
  | false =>
    have hcomma : skipBlanks (',' :: '"' :: cs) = ',' :: '"' :: cs := skipBlanks_cons (by decide) _
    rw [listed_false, behind_cons, List.cons_append, List.append_assoc, hmember]
    simp [nextName, hskip, hcomma, scanText, hscan, Except.map]

theorem scanColon_colon (rest : List Char) : scanColon (':' :: rest) = .ok rest := rfl

/-- No control character stands in a text. -/
def Printable (cs : List Char) : Prop := ∀ c ∈ cs, 0x20 ≤ c.toNat

theorem Printable.append {cs ds : List Char} (hc : Printable cs) (hd : Printable ds) :
    Printable (cs ++ ds) := by
  intro c hmem
  rcases List.mem_append.1 hmem with h | h
  · exact hc c h
  · exact hd c h

theorem Printable.cons {c : Char} {cs : List Char} (hc : 0x20 ≤ c.toNat) (hcs : Printable cs) :
    Printable (c :: cs) := by
  simpa [Printable] using ⟨hc, hcs⟩

theorem printable_nil : Printable [] := by simp [Printable]

theorem hexDigit_printable : ∀ d : Fin 16, 0x20 ≤ (hexDigit d).toNat := by decide

private theorem escapeChar_printable (c : Char) : Printable (escapeChar c) := by
  unfold escapeChar
  iterate 7
    split
    · simp [Printable]
  split
  · rename_i hcontrol
    have hhigh := hexDigit_printable ⟨c.toNat / 16, by omega⟩
    have hlow := hexDigit_printable ⟨c.toNat % 16, by omega⟩
    simp only at hhigh hlow
    simp [Printable, hhigh, hlow]
  · rename_i hcontrol
    simpa [Printable] using hcontrol

theorem quote_printable (s : String) : Printable (quote s) := by
  have hescaped : Printable (s.toList.flatMap escapeChar) := by
    intro c hmem
    obtain ⟨x, -, hx⟩ := List.mem_flatMap.1 hmem
    exact escapeChar_printable x c hx
  exact ((hescaped.cons (c := '"') (by decide)).append (by simp [Printable]))

private theorem digitChar_printable : ∀ d : Fin 10, 0x20 ≤ (Digits.digitChar d).toNat := by decide

theorem Digits.text_printable (d : Digits) : Printable d.text := by
  intro c hmem
  obtain ⟨x, -, rfl⟩ := List.mem_map.1 hmem
  exact digitChar_printable x

theorem Number.text_printable (n : Number) : Printable n.text := by
  obtain ⟨negative, whole, fraction, exponent⟩ := n
  obtain ⟨d, hdecimal, -, -⟩ := exists_digits_decimal whole
  have hsign : Printable (if negative then ['-'] else []) := by
    cases negative <;> simp [Printable]
  have hfraction : Printable (fractionText fraction) := by
    cases fraction with
    | none => exact printable_nil
    | some d => exact d.text_printable.cons (by decide)
  have hexponent : Printable (exponentText exponent) := by
    cases exponent with
    | none => exact printable_nil
    | some e =>
      refine (e.digits.text_printable.cons ?_).cons (by decide)
      cases e.negative <;> decide
  rw [Number.text_eq, hdecimal]
  exact hsign.append (d.text_printable.append (hfraction.append hexponent))

theorem behind_printable {items : List (List Char)} (h : ∀ item ∈ items, Printable item) :
    Printable (behind items) := by
  intro c hmem
  obtain ⟨item, hitem, hc⟩ := List.mem_flatMap.1 hmem
  exact (h item hitem).cons (by decide) c hc

theorem listed_printable {items : List (List Char)} (h : ∀ item ∈ items, Printable item)
    (first : Bool) : Printable (listed first items) := by
  cases first with
  | false => exact behind_printable h
  | true =>
    cases items with
    | nil => exact printable_nil
    | cons item items =>
      obtain ⟨hitem, hitems⟩ := List.forall_mem_cons.1 h
      rw [listed_true_cons]
      exact hitem.append (behind_printable hitems)

theorem text_printable (v : Json) : Printable v.text := by
  induction v using inductionOn with
  | null => simp [text, Printable]
  | bool b => cases b <;> simp [text, Printable]
  | number n => exact n.text_printable
  | string s => exact quote_printable s
  | array items ih =>
    have hitems : ∀ item ∈ itemTexts items, Printable item := by
      rw [itemTexts_eq_map]
      exact List.forall_mem_map.2 ih
    rw [text_array]
    exact ((listed_printable hitems true).append (by simp [Printable])).cons (by decide)
  | object ms ih =>
    have hmembers : ∀ member ∈ memberTexts ms, Printable member := by
      rw [memberTexts_eq_map]
      intro member hmember
      obtain ⟨m, hm, rfl⟩ := List.mem_map.1 hmember
      exact (quote_printable m.1).append ((ih m hm).cons (by decide))
    rw [text_object]
    exact ((listed_printable hmembers true).append (by simp [Printable])).cons (by decide)

end PlaybackRelay.Json

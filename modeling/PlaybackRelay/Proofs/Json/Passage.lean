import Mathlib.Data.Set.List
import PlaybackRelay.Json.Record
import PlaybackRelay.Proofs.Json.Skip

/-!
Nothing but a spelled value is passed over, and so a record is read of nothing but a spelled object
or array. Main statements: `exists_spaced_of_skipValue` and `Shape.exists_spaced_of_readRecord`.
-/
namespace PlaybackRelay.Json

open Source (comma)

/-- The entries that are left of a container up to its bracket. -/
def Entries (first : Bool) (bracket : Bracket) (cs rest : List Char) : Prop :=
  ∃ entries : List (Option StringToken × Source),
    (∀ e ∈ entries, (e.1.isSome ↔ bracket = .curly)) ∧
      Spaced (entryTokens first entries ++ [[bracket.closing]]) cs rest

/-- What must follow a value for all open containers to be closed. -/
def Closes : List Bracket → List Char → List Char → Prop
  | [], cs, rest => cs = rest
  | bracket :: outer, cs, rest => ∃ mid, Entries false bracket cs mid ∧ Closes outer mid rest

section Entries

variable {bracket : Bracket} {first : Bool} {cs mid rest : List Char}

private theorem entries_close (first : Bool) (h : skipBlanks cs = bracket.closing :: rest) :
    Entries first bracket cs rest := ⟨[], by simp, .single h⟩

theorem Entries.cons {name : Option StringToken} {x : Source}
    (hname : name.isSome ↔ bracket = .curly)
    (h : Spaced (comma first ++ (label name ++ x.tokens)) cs mid)
    (hrest : Entries false bracket mid rest) : Entries first bracket cs rest := by
  obtain ⟨entries, hnames, hentries⟩ := hrest
  refine ⟨(name, x) :: entries, List.forall_mem_cons.2 ⟨hname, hnames⟩, ?_⟩
  have hall := h.append hentries
  simpa only [entryTokens, List.append_assoc] using hall

/-- A container is a value once its bracket is found. -/
theorem exists_spaced_of_entries (hopen : skipBlanks cs = bracket.opening :: mid)
    (h : Entries true bracket mid rest) : ∃ x : Source, Spaced x.tokens cs rest := by
  obtain ⟨entries, hnames, hentries⟩ := h
  have hspaced : Spaced ([bracket.opening] :: (entryTokens true entries ++ [[bracket.closing]]))
      cs rest := .append (.single hopen) hentries
  cases bracket with
  | square =>
    have hitems : entries ∈ Set.range (List.map fun x : Source => (none, x)) := by
      rw [Set.range_list_map]
      rintro ⟨name, x⟩ he
      have hname : name = none := by simpa using hnames _ he
      exact ⟨x, by rw [hname]⟩
    obtain ⟨items, rfl⟩ := hitems
    refine ⟨.array items, ?_⟩
    rw [Source.tokens, itemTokens_eq]
    exact hspaced
  | curly =>
    have hms : entries ∈ Set.range (List.map fun m : StringToken × Source => (some m.1, m.2)) := by
      rw [Set.range_list_map]
      rintro ⟨name, x⟩ he
      obtain ⟨t, rfl⟩ : ∃ t, name = some t :=
        Option.isSome_iff_exists.1 ((hnames (name, x) he).2 rfl)
      exact ⟨(t, x), rfl⟩
    obtain ⟨ms, rfl⟩ := hms
    refine ⟨.object ms, ?_⟩
    rw [Source.tokens, memberTokens_eq]
    exact hspaced

end Entries

section Skipping

variable {cs rest : List Char} {stack : List Bracket} {fuel : Nat}

theorem exists_spaced_of_skipName (h : skipName cs = .ok rest) :
    ∃ name : StringToken, Spaced [name.text, [':']] cs rest := by
  unfold skipName at h
  split at h
  · contradiction
  · rename_i behind hskip
    obtain ⟨⟨s, cs₁⟩, hscan, hbehind⟩ := bind_eq_ok.1 h
    obtain ⟨name, rfl⟩ := exists_body_of_scanString hscan
    have hname : Spaced [name.text] cs cs₁ := .string hskip
    dsimp only at hbehind
    split at hbehind
    · contradiction
    · rename_i hcolon
      obtain rfl := Except.ok.inj hbehind
      exact ⟨name, hname.append (.single hcolon)⟩
    · contradiction
  · contradiction

/-- A scalar stands where its first character is found. -/
theorem exists_spaced_of_skipScalar (h : skipScalar (skipBlanks cs) = .ok rest) :
    ∃ x : Source, Spaced x.tokens cs rest := by
  unfold skipScalar at h
  split at h
  · contradiction
  · rename_i hskip
    exact ⟨.null, .single (by rw [hskip, eq_of_scanLiteral h]; rfl)⟩
  · rename_i hskip
    exact ⟨.bool true, .single (by rw [hskip, eq_of_scanLiteral h]; rfl)⟩
  · rename_i hskip
    exact ⟨.bool false, .single (by rw [hskip, eq_of_scanLiteral h]; rfl)⟩
  · rename_i hskip
    obtain ⟨⟨s, behind⟩, hscan, rfl⟩ := map_eq_ok.1 h
    obtain ⟨t, rfl⟩ := exists_body_of_scanString hscan
    exact ⟨.string t, .string hskip⟩
  · rename_i hskip
    split at h
    · obtain ⟨⟨n, behind⟩, hscan, rfl⟩ := map_eq_ok.1 h
      obtain ⟨t, -, htext⟩ := exists_token_of_scanNumber hscan
      exact ⟨.number t, .single (by rw [hskip, htext])⟩
    · contradiction

/-- In front of an entry: the container ends, or a value follows behind its comma and its name. -/
theorem skipSteps_itemState_eq_ok {first : Bool} {bracket : Bracket}
    (h : skipSteps (fuel + 1) (itemState first) (bracket :: stack) cs = .ok rest) :
    (∃ behind, skipBlanks cs = bracket.closing :: behind ∧ resume fuel stack behind = .ok rest) ∨
      ∃ (name : Option StringToken) (mid : List Char), (name.isSome ↔ bracket = .curly) ∧
        (∀ {x : Source} {after : List Char}, Spaced x.tokens mid after →
          Spaced (comma first ++ (label name ++ x.tokens)) cs after) ∧
        skipSteps fuel .value (bracket :: stack) mid = .ok rest := by
  cases hskip : skipBlanks cs with
  | nil => cases first <;> simp [itemState, skipSteps, hskip] at h
  | cons c behind =>
    by_cases hclose : c = bracket.closing
    · refine Or.inl ⟨behind, by rw [hclose], ?_⟩
      cases first <;> simpa [itemState, skipSteps, hskip, hclose, resume] using h
    · right
      cases first with
      | true =>
        cases bracket with
        | square =>
          have hnext : skipSteps fuel .value (.square :: stack) (skipBlanks cs) = .ok rest := by
            simpa [itemState, skipSteps, hskip, hclose] using h
          exact ⟨none, skipBlanks cs, by simp, fun hx => Source.spaced_of_skipBlanks hx, hnext⟩
        | curly =>
          have hnext : (do
              let cs ← skipName (skipBlanks cs)
              skipSteps fuel .value (.curly :: stack) cs) = .ok rest := by
            simpa [itemState, skipSteps, hskip, hclose] using h
          obtain ⟨mid, hname, hnext⟩ := bind_eq_ok.1 hnext
          obtain ⟨name, hspaced⟩ := exists_spaced_of_skipName hname
          exact ⟨some name, mid, by simp, fun hx => hspaced.of_skipBlanks.append hx, hnext⟩
      | false =>
        have hcomma : c = ',' := by
          by_contra hcomma
          simp [itemState, skipSteps, hskip, hclose, hcomma] at h
        subst hcomma
        have hfound : Spaced (comma false) cs behind := .single hskip
        cases bracket with
        | square =>
          have hnext : skipSteps fuel .value (.square :: stack) behind = .ok rest := by
            simpa [itemState, skipSteps, hskip, hclose] using h
          exact ⟨none, behind, by simp, fun hx => hfound.append hx, hnext⟩
        | curly =>
          have hnext : (do
              let cs ← skipName behind
              skipSteps fuel .value (.curly :: stack) cs) = .ok rest := by
            simpa [itemState, skipSteps, hskip, hclose] using h
          obtain ⟨mid, hname, hnext⟩ := bind_eq_ok.1 hnext
          obtain ⟨name, hspaced⟩ := exists_spaced_of_skipName hname
          exact ⟨some name, mid, by simp, fun hx => hfound.append (hspaced.append hx), hnext⟩

/-- Wherever the steps begin, they end where all that is open is closed. -/
theorem closes_of_fuel (fuel : Nat) :
    (∀ {stack cs rest}, skipSteps fuel .value stack cs = .ok rest →
      ∃ (x : Source) (mid : List Char), Spaced x.tokens cs mid ∧ Closes stack mid rest) ∧
    (∀ {first bracket outer cs rest},
      skipSteps fuel (itemState first) (bracket :: outer) cs = .ok rest →
        ∃ mid, Entries first bracket cs mid ∧ Closes outer mid rest) := by
  induction fuel with
  | zero => simp [skipSteps]
  | succ fuel ih =>
    obtain ⟨hvalue, hentries⟩ := ih
    have hresume {stack : List Bracket} {cs rest : List Char}
        (h : resume fuel stack cs = .ok rest) : Closes stack cs rest := by
      cases stack with
      | nil => exact Except.ok.inj h
      | cons bracket outer => exact @hentries false bracket outer cs rest h
    refine ⟨fun {stack cs rest} h => ?_, fun {first bracket outer cs rest} h => ?_⟩
    · rw [skipSteps] at h
      split at h
      · rename_i hskip
        obtain ⟨mid, hall, hcloses⟩ := @hentries true .square stack _ rest h
        obtain ⟨x, hx⟩ := exists_spaced_of_entries hskip hall
        exact ⟨x, mid, hx, hcloses⟩
      · rename_i hskip
        obtain ⟨mid, hall, hcloses⟩ := @hentries true .curly stack _ rest h
        obtain ⟨x, hx⟩ := exists_spaced_of_entries hskip hall
        exact ⟨x, mid, hx, hcloses⟩
      · obtain ⟨mid, hscalar, h⟩ := bind_eq_ok.1 h
        obtain ⟨x, hx⟩ := exists_spaced_of_skipScalar hscalar
        exact ⟨x, mid, hx, hresume h⟩
    · rcases skipSteps_itemState_eq_ok h with ⟨mid, hclose, h⟩ | ⟨name, mid, hname, hlead, h⟩
      · exact ⟨mid, entries_close first hclose, hresume h⟩
      · obtain ⟨x, cs₁, hx, cs₂, hrest, hcloses⟩ := hvalue h
        exact ⟨cs₂, .cons hname (hlead hx) hrest, hcloses⟩

theorem exists_spaced_of_skipValue (h : skipValue cs = .ok rest) :
    ∃ x : Source, Spaced x.tokens cs rest := by
  obtain ⟨x, mid, hx, rfl⟩ := (closes_of_fuel _).1 h
  exact ⟨x, hx⟩

end Skipping

namespace Shape

variable {field draft record : Type} {shape : Shape field draft record} {depth : Nat}
variable {d : draft} {r : record} {cs rest : List Char} {first : Bool}

/-- Nothing but a spelled value is read where a field is wanted. -/
def Recognizes (shape : Shape field draft record) : Prop :=
  ∀ {depth : Nat} {d d' : draft} {f : field} {cs rest : List Char},
    shape.read depth d f cs = .ok (d', rest) → ∃ x : Source, Spaced x.tokens cs rest

theorem eq_of_close (h : shape.close d cs = .ok (r, rest)) : cs = rest := by
  unfold close at h
  split at h
  · exact (Prod.mk.inj (Except.ok.inj h)).2
  · contradiction

private theorem exists_spaced_of_readMembers (hread : shape.Recognizes) {fuel : Nat}
    (h : shape.readMembers depth fuel first d cs = .ok (r, rest)) :
    ∃ ms, Spaced (Source.memberTokens first ms ++ [['}']]) cs rest := by
  induction fuel generalizing first d cs with
  | zero => contradiction
  | succ fuel ih =>
    rw [readMembers] at h
    obtain ⟨⟨name, cs₁⟩, hnext, h⟩ := bind_eq_ok.1 h
    cases name with
    | none =>
      obtain rfl := eq_of_close h
      exact ⟨[], spaced_of_nextName_none hnext⟩
    | some name =>
      obtain ⟨t, -, ht⟩ := exists_token_of_nextName hnext
      -- A value follows the name, whether it is read or passed over, and then the others.
      have hmember {cs₂ cs₃ : List Char} {d : draft} (hcolon : scanColon cs₁ = .ok cs₂)
          (hvalue : ∃ x : Source, Spaced x.tokens cs₂ cs₃)
          (h : shape.readMembers depth fuel false d cs₃ = .ok (r, rest)) :
          ∃ ms, Spaced (Source.memberTokens first ms ++ [['}']]) cs rest := by
        obtain ⟨x, hx⟩ := hvalue
        obtain ⟨ms, hrest⟩ := ih h
        refine ⟨(t, x) :: ms, ?_⟩
        rw [Source.memberTokens_cons_append]
        exact ht.append ((spaced_of_scanColon hcolon).append (hx.append hrest))
      dsimp only at h
      split at h
      · obtain ⟨cs₂, hcolon, h⟩ := bind_eq_ok.1 h
        obtain ⟨cs₃, hskip, h⟩ := bind_eq_ok.1 h
        exact hmember hcolon (exists_spaced_of_skipValue hskip) h
      · split at h
        · contradiction
        · obtain ⟨cs₂, hcolon, h⟩ := bind_eq_ok.1 h
          obtain ⟨⟨d', cs₃⟩, hvalue, h⟩ := bind_eq_ok.1 h
          exact hmember hcolon (hread hvalue) h

private theorem spaced_of_closeArray (h : shape.closeArray d cs = .ok (r, rest)) :
    Spaced [[']']] cs rest := by
  obtain ⟨⟨r', cs'⟩, -, hend⟩ := bind_eq_ok.1 h
  dsimp only at hend
  split at hend
  · contradiction
  · rename_i hskip
    obtain ⟨-, rfl⟩ := Prod.mk.inj (Except.ok.inj hend)
    exact .single hskip
  · contradiction

private theorem exists_spaced_of_readArray (hread : shape.Recognizes) {fields : List field}
    (h : shape.readArray depth fields first d cs = .ok (r, rest)) :
    ∃ xs, Spaced (Source.itemTokens first xs ++ [[']']]) cs rest := by
  induction fields generalizing first d cs with
  | nil => exact ⟨[], spaced_of_closeArray h⟩
  | cons f fields ih =>
    rw [readArray] at h
    obtain ⟨⟨more, cs₁⟩, hnext, h⟩ := bind_eq_ok.1 h
    cases more with
    | false =>
      dsimp only at h
      split at h
      · obtain rfl := eq_of_close h
        exact ⟨[], spaced_of_nextItem_false hnext⟩
      · contradiction
    | true =>
      obtain ⟨⟨d', cs₂⟩, hvalue, h⟩ := bind_eq_ok.1 h
      obtain ⟨x, hx⟩ := hread hvalue
      obtain ⟨xs, hrest⟩ := ih h
      refine ⟨x :: xs, ?_⟩
      rw [Source.itemTokens_cons_append]
      exact Source.spaced_of_nextItem hnext (hx.append hrest)

theorem exists_spaced_of_readRecord (hread : shape.Recognizes)
    (h : shape.readRecord depth cs = .ok (r, rest)) :
    (∃ ms, Spaced (Source.object ms).tokens cs rest) ∨
      ∃ xs, Spaced (Source.array xs).tokens cs rest := by
  unfold readRecord at h
  split at h
  · rename_i hskip
    split at h
    · contradiction
    · obtain ⟨ms, hms⟩ := exists_spaced_of_readMembers hread h
      exact Or.inl ⟨ms, .append (.single hskip) hms⟩
  · rename_i hskip
    split at h
    · contradiction
    · obtain ⟨xs, hxs⟩ := exists_spaced_of_readArray hread h
      exact Or.inr ⟨xs, .append (.single hskip) hxs⟩
  · contradiction

end Shape

end PlaybackRelay.Json

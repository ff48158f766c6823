import PlaybackRelay.Json.Record
import PlaybackRelay.Proofs.Json.Skip

/-!
A record is made of what its spelled members denote, one after the other. Main statements:
`Shape.yields_readRecord_object` and `Shape.yields_readRecord_array`.
-/
namespace PlaybackRelay.Json

theorem skipBlanks_eq_nil_iff {rest : List Char} :
    skipBlanks rest = [] ↔ ∀ c ∈ rest, isBlank c = true := List.dropWhile_eq_nil_iff

theorem Yields.whole {α : Type} {read : List Char → Except Fault (Scanned α)} {text : String}
    {value : Option α} {rest : List Char} (h : Yields (value.map (·, rest)) (read text.toList))
    (hrest : ∀ c ∈ rest, isBlank c = true) : Yields value (whole read text) := by
  have hbind : value.bind some = value := Option.bind_fun_some value
  rw [← hbind]
  refine h.bind fun a _ => ?_
  simp only [skipBlanks_eq_nil_iff.2 hrest]
  exact .ok a

private theorem length_le_memberTokens (first : Bool) (ms : List (StringToken × Source)) :
    ms.length ≤ (Source.memberTokens first ms).flatten.length := by
  induction ms generalizing first with
  | nil => exact Nat.zero_le _
  | cons m ms ih =>
    have hrest := ih false
    simp only [Source.memberTokens, List.flatten_append, List.flatten_cons, List.length_append,
      List.length_cons]
    omega

namespace Shape

variable {field draft record : Type} (shape : Shape field draft record)
variable (take? : Nat → draft → field → Source → Option draft)

/-- The draft that is made of a value where a field is wanted is `take?`. -/
def Interprets : Prop :=
  ∀ {depth : Nat} {d : draft} {f : field} {x : Source} {cs rest : List Char},
    Spaced x.tokens cs rest → Delimited rest →
    Yields ((take? depth d f x).map (·, rest)) (shape.read depth d f cs)

/-- A draft with one more member: a known one must be new, and any other one is passed over. -/
def enter? (depth : Nat) (d : draft) (m : StringToken × Source) : Option draft :=
  m.1.value?.bind fun name =>
    match shape.field? name with
    | none => some d
    | some f => if shape.seen d f then none else take? depth d f m.2

variable {shape take?} {depth : Nat} {d : draft} {cs rest : List Char}

theorem yields_close (d : draft) (rest : List Char) :
    Yields ((shape.finish d).map (·, rest)) (shape.close d rest) := by
  rw [close]
  cases shape.finish d with
  | none => exact .error _
  | some r => exact .ok _

theorem yields_readMembers (htake : shape.Interprets take?) {ms : List (StringToken × Source)}
    {fuel : Nat} {first : Bool} (h : Spaced (Source.memberTokens first ms ++ [['}']]) cs rest)
    (hfuel : ms.length < fuel) :
    Yields (((ms.foldlM (shape.enter? take? depth) d).bind shape.finish).map (·, rest))
      (shape.readMembers depth fuel first d cs) := by
  induction ms generalizing fuel first d cs with
  | nil =>
    obtain ⟨fuel, rfl⟩ := Nat.exists_eq_add_one_of_ne_zero (n := fuel) (by omega)
    rw [readMembers, nextName_of_spaced_close first h]
    exact yields_close d rest
  | cons m ms ih =>
    rw [List.length_cons] at hfuel
    obtain ⟨fuel, rfl⟩ := Nat.exists_eq_add_one_of_ne_zero (n := fuel) (by omega)
    rw [Source.memberTokens_cons_append] at h
    obtain ⟨cs₁, hname, h⟩ := h.exists_of_append
    obtain ⟨cs₂, hcolon, h⟩ := h.exists_of_append
    obtain ⟨cs₃, hvalue, hrest⟩ := h.exists_of_append
    have hlater (d : draft) := @ih d cs₃ fuel false hrest (by omega)
    simp only [List.foldlM_cons, Option.bind_eq_bind, enter?, Option.bind_assoc, Option.map_bind]
    rw [readMembers]
    refine (yields_nextName hname).bind fun name _ => ?_
    simp only [scanColon_of_spaced hcolon, Function.comp_apply]
    cases hfield : shape.field? name with
    | none =>
      have hskip := skipValue_of_spaced hvalue hrest.delimited_members
      simp only [bind, Except.bind, hskip]
      exact hlater d
    | some f =>
      by_cases hseen : shape.seen d f = true
      · simp only [if_pos hseen]
        exact .error _
      · simp only [if_neg hseen, Option.map_bind]
        exact (htake hvalue hrest.delimited_members).bind fun d _ => hlater d

private theorem yields_closeArray (d : draft) (h : Spaced [[']']] cs rest) :
    Yields ((shape.finish d).map (·, rest)) (shape.closeArray d cs) := by
  have hclose : skipBlanks cs = ']' :: rest := h.skipBlanks_eq (by decide)
  rw [closeArray, Option.map_eq_bind]
  refine (yields_close d cs).bind fun r _ => ?_
  rw [hclose]
  exact .ok _

/-- An array that lists a value for each field. -/
theorem yields_readArray (htake : shape.Interprets take?) {fields : List field}
    {xs : List Source} (hlength : fields.length = xs.length) {first : Bool}
    (h : Spaced (Source.itemTokens first xs ++ [[']']]) cs rest) :
    Yields ((((fields.zip xs).foldlM (fun d e => take? depth d e.1 e.2) d).bind
      shape.finish).map (·, rest)) (shape.readArray depth fields first d cs) := by
  induction fields generalizing xs first d cs with
  | nil =>
    obtain rfl := List.eq_nil_of_length_eq_zero hlength.symm
    exact yields_closeArray d h
  | cons f fields ih =>
    obtain ⟨x, xs, rfl⟩ := List.exists_cons_of_length_eq_add_one hlength.symm
    rw [Source.itemTokens_cons_append] at h
    obtain ⟨cs₁, hcomma, h⟩ := h.exists_of_append
    obtain ⟨hnext, h⟩ := nextItem_of_spaced hcomma h
    obtain ⟨cs₂, hvalue, hrest⟩ := h.exists_of_append
    have hlater (d : draft) := @ih d cs₂ xs (Nat.succ_inj.1 hlength) false hrest
    simp only [List.zip_cons_cons, List.foldlM_cons, Option.bind_eq_bind, Option.bind_assoc,
      Option.map_bind]
    rw [readArray, hnext]
    exact (htake hvalue hrest.delimited_items).bind fun d _ => hlater d

theorem yields_readRecord_object (htake : shape.Interprets take?)
    {ms : List (StringToken × Source)} (h : Spaced (Source.object ms).tokens cs rest) :
    Yields (((ms.foldlM (shape.enter? take? depth) shape.empty).bind shape.finish).map (·, rest))
      (shape.readRecord (depth + 1) cs) := by
  obtain ⟨behind, hskip, h⟩ := h.exists_skipBlanks (by decide)
  rw [List.nil_append] at hskip
  have hlength := h.length_le
  have hmembers := length_le_memberTokens true ms
  rw [List.flatten_append, List.length_append] at hlength
  rw [readRecord, hskip]
  simp only [if_neg (Nat.succ_ne_zero depth), Nat.add_sub_cancel]
  exact yields_readMembers htake h (by omega)

theorem yields_readRecord_array (htake : shape.Interprets take?) {xs : List Source}
    (hlength : shape.order.length = xs.length) (h : Spaced (Source.array xs).tokens cs rest) :
    Yields ((((shape.order.zip xs).foldlM (fun d e => take? depth d e.1 e.2) shape.empty).bind
      shape.finish).map (·, rest)) (shape.readRecord (depth + 1) cs) := by
  obtain ⟨behind, hskip, h⟩ := h.exists_skipBlanks (by decide)
  rw [List.nil_append] at hskip
  rw [readRecord, hskip]
  simp only [if_neg (Nat.succ_ne_zero depth), Nat.add_sub_cancel]
  exact yields_readArray htake hlength h

end Shape
end PlaybackRelay.Json

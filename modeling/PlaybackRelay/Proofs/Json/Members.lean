import PlaybackRelay.Json.Record
import PlaybackRelay.Proofs.Json.Reread
import PlaybackRelay.Proofs.Json.Written

/-!
A record is read from its written members one after the other: the known ones fill the draft and the
others are passed over. Main statement: `Shape.Takes.decided_readRecord`.
-/
namespace PlaybackRelay.Json

private theorem length_le_length_listed (ms : Members) (first : Bool) :
    ms.length ≤ (listed first (memberTexts ms)).length := by
  have hbehind (ms : Members) : ms.length ≤ (behind (memberTexts ms)).length := by
    induction ms with
    | nil => exact Nat.zero_le _
    | cons m ms ih =>
      rw [memberTexts, behind_cons]
      simp only [List.length_cons, List.length_append]
      omega
  cases first with
  | false => exact hbehind ms
  | true =>
    cases ms with
    | nil => exact Nat.zero_le _
    | cons m ms =>
      have hrest := hbehind ms
      rw [memberTexts, listed_true_cons]
      simp only [List.length_cons, List.length_append]
      omega

namespace Shape

variable {field draft record : Type} {shape : Shape field draft record} {depth : Nat}

/-- Reading the members turns one draft into another, if every known one of them can be read. -/
inductive Takes (shape : Shape field draft record) (depth : Nat) :
    draft → Members → Bool → draft → Prop where
  | nil (d : draft) : Takes shape depth d [] true d
  | known {d d' d'' : draft} {f : field} {m : String × Json} {ms : Members}
      {possible later : Bool} : shape.field? m.1 = some f → shape.seen d f = false →
      (∀ rest, Delimited rest →
        Decided possible (d', rest) (shape.read depth d f (m.2.text ++ rest))) →
      Takes shape depth d' ms later d'' →
      Takes shape depth d (m :: ms) (possible && later) d''
  | unknown {d d' : draft} {m : String × Json} {ms : Members} {possible : Bool} :
      shape.field? m.1 = none → Takes shape depth d ms possible d' →
      Takes shape depth d (m :: ms) possible d'

theorem Takes.append {d d' d'' : draft} {ms ns : Members} {possible later : Bool}
    (h : shape.Takes depth d ms possible d') (hrest : shape.Takes depth d' ns later d'') :
    shape.Takes depth d (ms ++ ns) (possible && later) d'' := by
  induction h with
  | nil d => exact hrest
  | known hfield hseen hread _ ih =>
    rw [Bool.and_assoc]
    exact .known hfield hseen hread (ih hrest)
  | unknown hfield _ ih => exact .unknown hfield (ih hrest)

theorem Takes.read {d d' d'' : draft} {f : field} {m : String × Json} {ms : Members}
    {possible : Bool} (hfield : shape.field? m.1 = some f) (hseen : shape.seen d f = false)
    (hread : ∀ rest, Delimited rest → shape.read depth d f (m.2.text ++ rest) = .ok (d', rest))
    (hrest : shape.Takes depth d' ms possible d'') :
    shape.Takes depth d (m :: ms) possible d'' := by
  have hknown : ∀ rest, Delimited rest →
      Decided true (d', rest) (shape.read depth d f (m.2.text ++ rest)) := by
    intro rest h
    rw [hread rest h]
    exact decided_ok _
  rw [← Bool.true_and possible]
  exact .known hfield hseen hknown hrest

private theorem readMembers_known {d : draft} {f : field} {m : String × Json}
    (hfield : shape.field? m.1 = some f) (hseen : shape.seen d f = false) (fuel : Nat)
    (first : Bool) (items : List (List Char)) (rest : List Char) :
    shape.readMembers depth (fuel + 1) first d (listed first (memberText m :: items) ++ rest) =
      (do
        let (d, rest) ← shape.read depth d f (m.2.text ++ (behind items ++ rest))
        shape.readMembers depth fuel false d rest) := by
  rw [readMembers, nextName_listed]
  simp [hfield, hseen, scanColon_colon, bind, Except.bind]

private theorem readMembers_unknown {d : draft} {m : String × Json}
    (hfield : shape.field? m.1 = none) (fuel : Nat) (first : Bool) (items : List (List Char))
    {rest : List Char} (h : Delimited rest) :
    shape.readMembers depth (fuel + 1) first d (listed first (memberText m :: items) ++ rest) =
      shape.readMembers depth fuel false d (behind items ++ rest) := by
  have hskip := skipValue_text m.2 (delimited_behind items h)
  rw [readMembers, nextName_listed]
  simp [hfield, hskip, scanColon_colon, bind, Except.bind]

private theorem readMembers_close (fuel : Nat) (first : Bool) (d : draft) (rest : List Char) :
    shape.readMembers depth (fuel + 1) first d ('}' :: rest) = shape.close d rest := rfl

/-- The record is made of the draft that the members leave. -/
theorem Takes.decided_readMembers {d d' : draft} {ms : Members} {possible : Bool} {r : record}
    (h : shape.Takes depth d ms possible d') (hfinish : shape.finish d' = some r) {fuel : Nat}
    (hfuel : ms.length < fuel) (first : Bool) (rest : List Char) :
    Decided possible (r, rest)
      (shape.readMembers depth fuel first d (listed first (memberTexts ms) ++ '}' :: rest)) := by
  induction h generalizing fuel first with
  | nil d =>
    obtain ⟨fuel, rfl⟩ := Nat.exists_eq_add_one_of_ne_zero (n := fuel) (by omega)
    rw [memberTexts, listed_nil, List.nil_append, readMembers_close, close, hfinish]
    exact decided_ok (r, rest)
  | @known d d₁ d₂ f m ms possible later hfield hseen hread _ ih =>
    rw [List.length_cons] at hfuel
    obtain ⟨fuel, rfl⟩ := Nat.exists_eq_add_one_of_ne_zero (n := fuel) (by omega)
    have hdelimited := delimited_behind (memberTexts ms) (delimited_brace rest)
    have hmember := hread _ hdelimited
    have hrest := @ih hfinish fuel (by omega) false
    rw [memberTexts, ← memberText, readMembers_known hfield hseen]
    exact hmember.bind hrest
  | @unknown d d' m ms possible hfield _ ih =>
    rw [List.length_cons] at hfuel
    obtain ⟨fuel, rfl⟩ := Nat.exists_eq_add_one_of_ne_zero (n := fuel) (by omega)
    have hrest := @ih hfinish fuel (by omega) false
    rw [memberTexts, ← memberText, readMembers_unknown hfield _ _ _ (delimited_brace rest)]
    exact hrest

theorem Takes.decided_readRecord {d : draft} {ms : Members} {possible : Bool} {r : record}
    (h : shape.Takes depth shape.empty ms possible d) (hfinish : shape.finish d = some r)
    (rest : List Char) :
    Decided possible (r, rest) (shape.readRecord (depth + 1) ((object ms).text ++ rest)) := by
  have hfuel := length_le_length_listed ms true
  have hread := h.decided_readMembers hfinish
    (Nat.lt_add_one_of_le (Nat.le_trans hfuel (Nat.le_add_right _ ('}' :: rest).length))) true rest
  rw [readRecord, skipBlanks_text, text_object, List.cons_append, List.append_assoc]
  simpa using hread

end Shape
end PlaybackRelay.Json

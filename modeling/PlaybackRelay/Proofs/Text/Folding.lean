import Mathlib
import PlaybackRelay.Text.Search

/-!
What a text may hold in place of another one where case does not count. Only small letters stand for
other characters. Main statement: `fold_eq_append_cons_iff`.
-/
namespace PlaybackRelay.Text

section Characters

variable {c d : Char}

theorem foldChar_eq_self_or_isLower (c : Char) : foldChar c = c ∨ (foldChar c).isLower = true := by
  rw [foldChar]
  split
  · exact Or.inr (by decide)
  split
  · exact Or.inr (by decide)
  · cases h : c.isUpper with
    | true => exact Or.inr (by rw [Char.isLower_toLower_eq_isAlpha, Char.isAlpha, h, Bool.true_or])
    | false => exact Or.inl (Char.toLower_eq_of_not_isUpper (Bool.not_eq_true _ ▸ h))

/-- Nothing but the character itself stands for one that is no small letter. -/
theorem foldChar_eq_iff (hd : d.isLower = false) (hself : foldChar d = d) :
    foldChar c = d ↔ c = d := by
  constructor
  · rintro rfl
    rcases foldChar_eq_self_or_isLower c with h | h
    · exact h.symm
    · rw [hd] at h
      contradiction
  · rintro rfl
    exact hself

end Characters

section Texts

variable {cs before after : List Char} {d : Char}

theorem fold_append (before after : List Char) :
    fold (before ++ after) = fold before ++ fold after := List.map_append

theorem mem_fold_iff (hd : d.isLower = false) (hself : foldChar d = d) : d ∈ fold cs ↔ d ∈ cs := by
  simp [fold, List.mem_map, foldChar_eq_iff hd hself]

/-- A folded text falls apart where the text itself does. -/
theorem fold_eq_append_cons_iff (hd : d.isLower = false) (hself : foldChar d = d) :
    fold cs = before ++ d :: after ↔
      ∃ left right, cs = left ++ d :: right ∧ fold left = before ∧ fold right = after := by
  constructor
  · intro h
    obtain ⟨left, rest, rfl, hleft, hrest⟩ := List.map_eq_append_iff.1 h
    obtain ⟨c, right, rfl, hc, hright⟩ := List.map_eq_cons_iff.1 hrest
    obtain rfl := (foldChar_eq_iff hd hself).1 hc
    exact ⟨left, right, rfl, hleft, hright⟩
  · rintro ⟨left, right, rfl, rfl, rfl⟩
    rw [fold_append, fold, fold, fold, List.map_cons, hself]

end Texts

end PlaybackRelay.Text

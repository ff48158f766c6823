import Mathlib.Data.List.Basic

/-!
Texts that one edit tells apart: a character more, a character less, or another character in the
same place. Whether two texts are so is decided in one pass. Main statement: `isEdit_iff`.
-/
namespace PlaybackRelay.Text

/-- One character is inserted, deleted, or replaced by another one. -/
inductive Edit : List Char → List Char → Prop where
  | insert (before after : List Char) (c : Char) : Edit (before ++ after) (before ++ c :: after)
  | delete (before after : List Char) (c : Char) : Edit (before ++ c :: after) (before ++ after)
  | replace (before after : List Char) {c d : Char} (hne : c ≠ d) :
      Edit (before ++ c :: after) (before ++ d :: after)

/-- Behind the characters in front that are the same, the texts differ by their first ones alone. -/
def isEdit : List Char → List Char → Bool
  | [], ds => ds.length = 1
  | cs, [] => cs.length = 1
  | c :: cs, d :: ds =>
    if c = d then isEdit cs ds else cs = ds || c :: cs = ds || cs = d :: ds

section Edits

variable {c d : Char} {cs ds : List Char}

theorem Edit.cons (c : Char) (h : Edit cs ds) : Edit (c :: cs) (c :: ds) := by
  cases h with
  | insert before after inserted => exact .insert (c :: before) after inserted
  | delete before after deleted => exact .delete (c :: before) after deleted
  | replace before after hne => exact .replace (c :: before) after hne

theorem Edit.symm (h : Edit cs ds) : Edit ds cs := by
  cases h with
  | insert before after c => exact .delete before after c
  | delete before after c => exact .insert before after c
  | replace before after hne => exact .replace before after hne.symm

theorem Edit.ne (h : Edit cs ds) : cs ≠ ds := by
  intro heq
  cases h with
  | insert before after c | delete before after c =>
    have hlength := congrArg List.length heq
    simp only [List.length_append, List.length_cons] at hlength
    omega
  | replace before after hne =>
    have htails := List.append_cancel_left heq
    exact hne (List.cons.inj htails).1

theorem isEdit_append (before cs ds : List Char) :
    isEdit (before ++ cs) (before ++ ds) = isEdit cs ds := by
  induction before with
  | nil => rfl
  | cons c before ih => rw [List.cons_append, List.cons_append, isEdit, if_pos rfl, ih]

/-- The longer text may begin with the same character twice, so that the second one counts as the
one that was inserted. -/
theorem isEdit_insert (c : Char) (cs : List Char) : isEdit cs (c :: cs) = true := by
  induction cs generalizing c with
  | nil => rfl
  | cons d cs ih =>
    rw [isEdit]
    split
    · exact ih d
    · simp

private theorem isEdit_delete (c : Char) (cs : List Char) : isEdit (c :: cs) cs = true := by
  induction cs generalizing c with
  | nil => rfl
  | cons d cs ih =>
    rw [isEdit]
    split
    · exact ih d
    · simp

private theorem isEdit_replace (hne : c ≠ d) (cs : List Char) :
    isEdit (c :: cs) (d :: cs) = true := by
  rw [isEdit, if_neg hne]
  simp

theorem edit_of_isEdit (h : isEdit cs ds = true) : Edit cs ds := by
  fun_induction isEdit cs ds with
  | case1 ds =>
    obtain ⟨d, rfl⟩ := List.length_eq_one_iff.1 (of_decide_eq_true h)
    exact .insert [] [] d
  | case2 cs hcs =>
    obtain ⟨c, rfl⟩ := List.length_eq_one_iff.1 (of_decide_eq_true h)
    exact .delete [] [] c
  | case3 cs d ds ih => exact (ih h).cons d
  | case4 c cs d ds hne =>
    simp only [Bool.or_eq_true, decide_eq_true_eq] at h
    obtain (rfl | rfl) | rfl := h
    · exact .replace [] cs hne
    · exact .insert [] (c :: cs) d
    · exact .delete [] (d :: ds) c

theorem isEdit_iff : isEdit cs ds = true ↔ Edit cs ds := by
  refine ⟨edit_of_isEdit, fun h => ?_⟩
  cases h with
  | insert before after c => rw [isEdit_append, isEdit_insert]
  | delete before after c => rw [isEdit_append, isEdit_delete]
  | replace before after hne => rw [isEdit_append, isEdit_replace hne]

instance : DecidableRel Edit := fun _ _ => decidable_of_iff _ isEdit_iff

end Edits

/-- Two texts are neither the same nor one edit apart. -/
def Apart (cs ds : List Char) : Prop := cs ≠ ds ∧ ¬Edit cs ds

instance : DecidableRel Apart := fun cs ds => inferInstanceAs (Decidable (cs ≠ ds ∧ ¬Edit cs ds))

instance : Std.Symm Apart := ⟨fun _ _ h => ⟨h.1.symm, fun hedit => h.2 hedit.symm⟩⟩

end PlaybackRelay.Text

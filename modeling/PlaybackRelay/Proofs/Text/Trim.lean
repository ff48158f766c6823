import Mathlib.Data.List.TakeWhile
import PlaybackRelay.Text.Blank

/-!
Removing the white space around a text. What does not begin or end with white space is not touched,
wherever it stands. Main statement: `infix_trim`.
-/
namespace PlaybackRelay.Text

variable {part cs : List Char} {c : Char}

theorem trimStart_append_cons (hc : isBlank c = false) (before rest : List Char) :
    trimStart (before ++ c :: rest) = trimStart before ++ c :: rest := by
  induction before with
  | nil => exact List.dropWhile_cons_of_neg (by simp [hc])
  | cons b before ih =>
    rw [trimStart, trimStart, List.cons_append]
    cases hb : isBlank b with
    | true => rwa [List.dropWhile_cons_of_pos hb, List.dropWhile_cons_of_pos hb]
    | false =>
      rw [List.dropWhile_cons_of_neg (by simp [hb]), List.dropWhile_cons_of_neg (by simp [hb]),
        List.cons_append]

theorem trimEnd_append_cons (hc : isBlank c = false) (before rest : List Char) :
    trimEnd (before ++ c :: rest) = before ++ c :: trimEnd rest := by
  have hreverse : (before ++ c :: rest).reverse = rest.reverse ++ c :: before.reverse := by simp
  have hstart := trimStart_append_cons hc rest.reverse before.reverse
  rw [trimStart, trimStart] at hstart
  rw [trimEnd, trimEnd, hreverse, hstart]
  simp

theorem trimEnd_isPrefix (cs : List Char) : trimEnd cs <+: cs := by
  have hreverse := List.reverse_prefix.2 (List.dropWhile_suffix (l := cs.reverse) isBlank)
  rwa [List.reverse_reverse] at hreverse

theorem trim_isInfix (cs : List Char) : trim cs <:+: cs :=
  (trimEnd_isPrefix _).isInfix.trans (List.dropWhile_suffix isBlank).isInfix

theorem isBlank_of_mem_head?_dropWhile (h : c ∈ (cs.dropWhile isBlank).head?) :
    isBlank c = false := by
  have hhead := List.head?_dropWhile_not isBlank cs
  rwa [h] at hhead

theorem isBlank_of_mem_head?_trim (h : c ∈ (trim cs).head?) : isBlank c = false := by
  obtain ⟨rest, hrest⟩ := trimEnd_isPrefix (trimStart cs)
  have hhead : c ∈ (trimStart cs).head? := by
    rw [← hrest, List.head?_append, ← trim, Option.mem_def.1 h]
    rfl
  exact isBlank_of_mem_head?_dropWhile hhead

theorem isBlank_of_mem_getLast?_trim (h : c ∈ (trim cs).getLast?) : isBlank c = false := by
  rw [trim, trimEnd, List.getLast?_reverse] at h
  exact isBlank_of_mem_head?_dropWhile h

/-- What begins and ends without white space is kept. -/
theorem infix_trim (hpart : part <:+: cs) (hfirst : ∀ c ∈ part.head?, isBlank c = false)
    (hlast : ∀ c ∈ part.getLast?, isBlank c = false) : part <:+: trim cs := by
  obtain ⟨before, after, rfl⟩ := hpart
  cases part with
  | nil => exact List.nil_infix
  | cons first behind =>
    have hstart : trimStart (before ++ first :: behind ++ after) =
        trimStart before ++ first :: behind ++ after := by
      rw [List.append_assoc, List.cons_append, trimStart_append_cons (hfirst first rfl)]
      simp
    rcases List.eq_nil_or_concat (first :: behind) with hempty | ⟨inner, last, hinner⟩
    · contradiction
    rw [List.concat_eq_append] at hinner
    have hblank : isBlank last = false := hlast last (by rw [hinner, List.getLast?_concat]; rfl)
    rw [trim, hstart, hinner, ← List.append_assoc, List.append_assoc _ [last],
      List.singleton_append, trimEnd_append_cons hblank]
    exact ⟨trimStart before, trimEnd after, by simp⟩

theorem trim_infix_trim (before cs after : List Char) : trim cs <:+: trim (before ++ cs ++ after) :=
  infix_trim ((trim_isInfix cs).trans ⟨before, after, rfl⟩)
    (fun _ => isBlank_of_mem_head?_trim) (fun _ => isBlank_of_mem_getLast?_trim)

end PlaybackRelay.Text

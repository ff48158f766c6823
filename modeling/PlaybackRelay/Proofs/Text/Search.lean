import Mathlib.Data.List.Infix
import Mathlib.Data.Nat.Find
import PlaybackRelay.Text.Blank
import PlaybackRelay.Text.Search

/-!
Where one text stands inside another. Occurrences that are counted from the left hide those that
begin inside the one before, so that the last one counted need not be the last one of all; but it
ends behind the place where that one begins. Main statements: `isSome_first?_iff`,
`finalAt_of_lastStart?`.
-/
namespace PlaybackRelay.Text

section Places

/-- The part stands in the text with so many characters in front of it. -/
def StandsAt (part : List Char) (place : Nat) (cs : List Char) : Prop :=
  ∃ before rest, cs = before ++ (part ++ rest) ∧ before.length = place

variable {part other cs : List Char} {place distance : Nat}

theorem standsAt_zero : StandsAt part 0 cs ↔ part <+: cs := by
  constructor
  · rintro ⟨before, rest, rfl, hbefore⟩
    obtain rfl := List.length_eq_zero_iff.1 hbefore
    exact List.prefix_append part rest
  · rintro ⟨rest, rfl⟩
    exact ⟨[], rest, rfl, rfl⟩

theorem standsAt_succ (c : Char) :
    StandsAt part (place + 1) (c :: cs) ↔ StandsAt part place cs := by
  constructor
  · rintro ⟨before, rest, hcs, hbefore⟩
    obtain ⟨c', before, rfl⟩ := List.exists_cons_of_length_eq_add_one hbefore
    obtain ⟨-, rfl⟩ := List.cons.inj hcs
    exact ⟨before, rest, rfl, Nat.succ.inj hbefore⟩
  · rintro ⟨before, rest, rfl, rfl⟩
    exact ⟨c :: before, rest, rfl, rfl⟩

theorem not_standsAt_nil (h : part ≠ []) : ¬StandsAt part place [] := by
  rintro ⟨before, rest, hcs, -⟩
  simp [h] at hcs

theorem exists_standsAt_iff : (∃ place, StandsAt part place cs) ↔ part <:+: cs := by
  constructor
  · rintro ⟨place, before, rest, rfl, -⟩
    exact ⟨before, rest, List.append_assoc before part rest⟩
  · rintro ⟨before, rest, rfl⟩
    exact ⟨before.length, before, rest, List.append_assoc before part rest, rfl⟩

theorem StandsAt.le_length (h : StandsAt part place cs) : place ≤ cs.length := by
  obtain ⟨before, rest, rfl, rfl⟩ := h
  rw [List.length_append]
  exact Nat.le_add_right _ _

/-- What stands in a text stands there for the last time. -/
theorem exists_last_standsAt (h : part <:+: cs) :
    ∃ place, StandsAt part place cs ∧ ∀ later, StandsAt part later cs → later ≤ place := by
  classical
  obtain ⟨place, hplace⟩ := exists_standsAt_iff.2 h
  refine ⟨Nat.findGreatest (StandsAt part · cs) cs.length, ?_, fun later hlater => ?_⟩
  · exact Nat.findGreatest_spec (P := (StandsAt part · cs)) hplace.le_length hplace
  · exact Nat.le_findGreatest hlater.le_length hlater

theorem StandsAt.prefix_drop (h : StandsAt part place cs) : part <+: cs.drop place := by
  obtain ⟨before, rest, rfl, rfl⟩ := h
  rw [List.drop_left]
  exact List.prefix_append part rest

/-- Two parts that share a place in the text agree there. -/
theorem StandsAt.prefix_or_prefix (h : StandsAt part place cs)
    (hother : StandsAt other (place + distance) cs) :
    part.drop distance <+: other ∨ other <+: part.drop distance := by
  have hrest : part.drop distance <+: cs.drop (place + distance) := by
    rw [← List.drop_drop]
    exact h.prefix_drop.drop distance
  exact List.prefix_or_prefix_of_prefix hrest hother.prefix_drop

/-- A part that goes on behind no separator stands on one side of each. -/
theorem infix_append_cons_iff {separator : Char} (hpart : separator ∉ part.dropLast)
    (before rest : List Char) : part <:+: before ++ separator :: rest ↔
      part <:+: before ++ [separator] ∨ part <:+: rest := by
  rw [List.append_cons, List.infix_append_iff]
  constructor
  · rintro (h | h | ⟨left, right, rfl, hleft, hright⟩)
    · exact .inl h
    · exact .inr h
    rcases List.suffix_concat_iff.1 hleft with rfl | ⟨left, rfl, -⟩
    · exact .inr hright.isInfix
    rcases eq_or_ne right [] with rfl | hne
    · exact .inl (by simpa only [List.append_nil] using hleft.isInfix)
    · rw [List.dropLast_append_of_ne_nil hne] at hpart
      exact (hpart (List.mem_append_left _ (by simp))).elim
  · rintro (h | h)
    · exact .inl h
    · exact .inr (.inl h)

theorem infix_concat_iff_of_notMem {separator : Char} (hpart : separator ∉ part) (hne : part ≠ [])
    (before : List Char) : part <:+: before ++ [separator] ↔ part <:+: before := by
  rw [List.infix_concat_iff, List.suffix_concat_iff, or_iff_right]
  rintro (h | ⟨left, rfl, -⟩)
  · exact hne h
  · exact hpart (List.mem_append_right _ (List.mem_singleton_self _))

end Places

section Scans

theorem behind?_eq_some_iff {start cs rest : List Char} :
    behind? start cs = some rest ↔ cs = start ++ rest := by
  unfold behind?
  constructor
  · intro h
    split at h
    · rename_i hstart
      rw [← Option.some.inj h]
      exact List.prefix_append_drop (List.isPrefixOf_iff_prefix.1 hstart)
    · contradiction
  · rintro rfl
    have hstart : start.isPrefixOf (start ++ rest) = true :=
      List.isPrefixOf_iff_prefix.2 (List.prefix_append start rest)
    rw [if_pos hstart, List.drop_left]

@[simp] theorem behind?_append (start rest : List Char) :
    behind? start (start ++ rest) = some rest := behind?_eq_some_iff.2 rfl

/-- A scanner is tried at every place, the end included. -/
theorem isSome_first?_iff {α : Type} {scan : List Char → Option α} {cs : List Char} :
    (first? scan cs).isSome ↔ ∃ before rest, cs = before ++ rest ∧ (scan rest).isSome := by
  induction cs with
  | nil => simp [first?]
  | cons c cs ih =>
    rw [first?, Option.isSome_or, Bool.or_eq_true, ih]
    constructor
    · rintro (h | ⟨before, rest, rfl, h⟩)
      · exact ⟨[], c :: cs, rfl, h⟩
      · exact ⟨c :: before, rest, rfl, h⟩
    · rintro ⟨before, rest, hcs, h⟩
      cases before with
      | nil =>
        rw [List.nil_append] at hcs
        exact Or.inl (hcs ▸ h)
      | cons c' before =>
        obtain ⟨-, hcs⟩ := List.cons.inj hcs
        exact Or.inr ⟨before, rest, hcs, h⟩

/-- What a scanner finds, it finds at some place. -/
theorem exists_of_first?_eq_some {α : Type} {scan : List Char → Option α} {cs : List Char} {a : α}
    (h : first? scan cs = some a) : ∃ rest, scan rest = some a := by
  induction cs with
  | nil => exact ⟨[], h⟩
  | cons c cs ih =>
    rcases Option.or_eq_some_iff.1 h with h | ⟨-, h⟩
    · exact ⟨c :: cs, h⟩
    · exact ih h

theorem occurs_iff {part : String} {cs : List Char} :
    occurs part cs = true ↔ part.toList <:+: cs := by
  rw [occurs, after?, isSome_first?_iff]
  simp only [Option.isSome_iff_exists, behind?_eq_some_iff]
  constructor
  · rintro ⟨before, _, rfl, rest, rfl⟩
    exact ⟨before, rest, List.append_assoc before _ rest⟩
  · rintro ⟨before, rest, rfl⟩
    exact ⟨before, _, List.append_assoc before _ rest, rest, rfl⟩

theorem startsWith_iff {start : String} {cs : List Char} :
    startsWith start cs = true ↔ start.toList <+: cs := List.isPrefixOf_iff_prefix

theorem exists_append_trimStart (cs : List Char) :
    ∃ blanks, (∀ c ∈ blanks, isBlank c = true) ∧ cs = blanks ++ trimStart cs :=
  ⟨cs.takeWhile isBlank, List.all_eq_true.1 List.all_takeWhile,
    List.takeWhile_append_dropWhile.symm⟩

theorem trimStart_append {blanks : List Char} (h : ∀ c ∈ blanks, isBlank c = true) {c : Char}
    (hc : isBlank c = false) (rest : List Char) :
    trimStart (blanks ++ c :: rest) = c :: rest := by
  rw [trimStart, List.dropWhile_append_of_pos h, List.dropWhile_cons_of_neg (by simp [hc])]

end Scans

section Last

variable {part cs : List Char} {position skip place other : Nat}

/-- An occurrence behind whose end no other one begins. -/
structure FinalAt (part : List Char) (place : Nat) (cs : List Char) : Prop where
  standsAt : StandsAt part place cs
  lt : ∀ other, StandsAt part other cs → other < place + part.length

theorem FinalAt.cons (hpart : part ≠ []) (h : FinalAt part place cs) (c : Char) :
    FinalAt part (place + 1) (c :: cs) := by
  refine ⟨(standsAt_succ c).2 h.standsAt, fun other hother => ?_⟩
  have hlength : 0 < part.length := List.length_pos_iff.2 hpart
  cases other with
  | zero => omega
  | succ other =>
    have hlt := h.lt other ((standsAt_succ c).1 hother)
    omega

/-- An occurrence that is not counted begins among the characters that are skipped. -/
theorem lt_of_lastStartFrom_eq_none (hpart : part ≠ [])
    (h : lastStartFrom part position skip cs = none) (hother : StandsAt part other cs) :
    other < skip := by
  fun_induction lastStartFrom part position skip cs generalizing other with
  | case1 => exact absurd hother (not_standsAt_nil hpart)
  | case2 position skip c cs ih =>
    cases other with
    | zero => exact Nat.succ_pos skip
    | succ other => exact Nat.succ_lt_succ (ih h ((standsAt_succ c).1 hother))
  | case3 position c cs hmatch ih =>
    rw [Option.or_eq_none_iff] at h
    exact nomatch h.2
  | case4 position c cs hmatch ih =>
    cases other with
    | zero =>
      rw [standsAt_zero, ← List.isPrefixOf_iff_prefix] at hother
      contradiction
    | succ other => exact absurd (ih h ((standsAt_succ c).1 hother)) (Nat.not_lt_zero other)

theorem exists_of_lastStartFrom_eq_some (hpart : part ≠ [])
    (h : lastStartFrom part position skip cs = some place) :
    ∃ ahead, place = position + ahead ∧ skip ≤ ahead ∧ FinalAt part ahead cs := by
  fun_induction lastStartFrom part position skip cs generalizing place with
  | case1 => contradiction
  | case2 position skip c cs ih =>
    obtain ⟨ahead, rfl, hskip, hfinal⟩ := ih h
    exact ⟨ahead + 1, by omega, by omega, hfinal.cons hpart c⟩
  | case3 position c cs hmatch ih =>
    cases hrest : lastStartFrom part (position + 1) (part.length - 1) cs with
    | none =>
      -- What the later characters hold begins inside this occurrence.
      rw [hrest, Option.none_or, Option.some.injEq] at h
      refine ⟨0, h.symm, le_rfl, standsAt_zero.2 (List.isPrefixOf_iff_prefix.1 hmatch), ?_⟩
      intro other hother
      have hlength : 0 < part.length := List.length_pos_iff.2 hpart
      cases other with
      | zero => omega
      | succ other =>
        have hlt := lt_of_lastStartFrom_eq_none hpart hrest ((standsAt_succ c).1 hother)
        omega
    | some found =>
      rw [hrest, Option.some_or, Option.some.injEq] at h
      obtain ⟨ahead, rfl, -, hfinal⟩ := ih (hrest.trans (congrArg some h))
      exact ⟨ahead + 1, by omega, by omega, hfinal.cons hpart c⟩
  | case4 position c cs hmatch ih =>
    obtain ⟨ahead, rfl, -, hfinal⟩ := ih h
    exact ⟨ahead + 1, by omega, by omega, hfinal.cons hpart c⟩

variable {marker : String}

theorem lastStart?_eq_none_iff (hmarker : marker.toList ≠ []) :
    lastStart? marker cs = none ↔ ¬marker.toList <:+: cs := by
  rw [← exists_standsAt_iff]
  constructor
  · rintro h ⟨place, hplace⟩
    exact absurd (lt_of_lastStartFrom_eq_none hmarker h hplace) (Nat.not_lt_zero place)
  · intro h
    rw [Option.eq_none_iff_forall_ne_some]
    intro place hplace
    obtain ⟨ahead, -, -, hfinal⟩ := exists_of_lastStartFrom_eq_some hmarker hplace
    exact h ⟨ahead, hfinal.standsAt⟩

theorem finalAt_of_lastStart? (hmarker : marker.toList ≠ [])
    (h : lastStart? marker cs = some place) : FinalAt marker.toList place cs := by
  obtain ⟨ahead, rfl, -, hfinal⟩ := exists_of_lastStartFrom_eq_some hmarker h
  rwa [Nat.zero_add]

/-- The occurrence that is found hides a later one. -/
example : lastStart? "aa" ['a', 'a', 'a'] = some 0 := by decide

end Last

end PlaybackRelay.Text

import Mathlib.Data.List.Find
import PlaybackRelay.Media.Urn
import PlaybackRelay.Proofs.Text.Search

/-!
Identifiers of media, read as the segments between their colons. Main statement:
`readings_eq_segments`.
-/
namespace PlaybackRelay.Media.Urn

section Segments

def segments (cs : List Char) : List (List Char) := cs.splitOn ':'

variable {tag cs : List Char}

theorem segments_ne_nil (cs : List Char) : segments cs ≠ [] := List.splitOn_ne_nil ':' cs

theorem segments_append_cons (cs rest : List Char) :
    segments (cs ++ ':' :: rest) = segments cs ++ segments rest :=
  List.splitOn_append_cons_self cs rest

theorem segments_tag_cons (h : ':' ∉ tag) (rest : List Char) :
    segments (tag ++ ':' :: rest) = tag :: segments rest :=
  List.splitOn_append_cons_self_of_not_mem h rest

private theorem intercalate_append {before after : List (List Char)} (hbefore : before ≠ [])
    (hafter : after ≠ []) : [':'].intercalate (before ++ after) =
      [':'].intercalate before ++ ':' :: [':'].intercalate after := by
  induction before with
  | nil => contradiction
  | cons segment before ih =>
    rw [List.cons_append,
      List.intercalate_cons_of_ne_nil (List.append_ne_nil_of_right_ne_nil _ hafter)]
    cases before with
    | nil => simp
    | cons second before =>
      rw [ih (List.cons_ne_nil second before),
        List.intercalate_cons_of_ne_nil (List.cons_ne_nil second before)]
      simp

/-- What stands between two colons is a segment, and neither the first nor the last one. -/
theorem infix_iff_getElem? (h : ':' ∉ tag) : ':' :: (tag ++ [':']) <:+: cs ↔
    ∃ i < (segments cs).length - 1, 1 ≤ i ∧ (segments cs)[i]? = some tag := by
  constructor
  · rintro ⟨before, rest, rfl⟩
    have hsegments : segments (before ++ ':' :: (tag ++ [':']) ++ rest) =
        segments before ++ tag :: segments rest := by
      rw [← segments_tag_cons h, ← segments_append_cons]
      simp
    have hbefore := List.length_pos_iff.2 (segments_ne_nil before)
    have hrest := List.length_pos_iff.2 (segments_ne_nil rest)
    -- Neither side of the tag is empty once it is split: each holds at least an empty segment.
    refine ⟨(segments before).length, ?_, hbefore, ?_⟩
    · rw [hsegments, List.length_append, List.length_cons]
      omega
    · rw [hsegments, List.getElem?_append_right le_rfl, Nat.sub_self, List.getElem?_cons_zero]
  · rintro ⟨i, hlast, hfirst, htag⟩
    obtain ⟨hi, rfl⟩ := List.getElem?_eq_some_iff.1 htag
    have hbefore : (segments cs).take i ≠ [] := by
      rw [← List.length_pos_iff, List.length_take]
      omega
    have hafter : (segments cs).drop (i + 1) ≠ [] := by
      rw [← List.length_pos_iff, List.length_drop]
      omega
    have hcs : cs = [':'].intercalate ((segments cs).take i ++
        (segments cs)[i] :: (segments cs).drop (i + 1)) := by
      rw [List.getElem_cons_drop, List.take_append_drop, segments, List.intercalate_splitOn]
    rw [intercalate_append hbefore (List.cons_ne_nil _ _),
      List.intercalate_cons_of_ne_nil hafter] at hcs
    refine ⟨[':'].intercalate ((segments cs).take i),
      [':'].intercalate ((segments cs).drop (i + 1)), ?_⟩
    conv_rhs => rw [hcs]
    simp

end Segments

section Readings

/-- On one line, with the scheme in front: a segment with this name, from a certain place on and
before the last one. -/
def IsTagged (first : Nat) (tag : String) (id : List Char) : Prop :=
  '\n' ∉ id ∧ (segments id)[0]? = some "urn".toList ∧
    ∃ i < (segments id).length - 1, first ≤ i ∧ (segments id)[i]? = some tag.toList

instance (first : Nat) (tag : String) (id : List Char) : Decidable (IsTagged first tag id) :=
  inferInstanceAs (Decidable (_ ∧ _ ∧ _))

variable {tag : String} {id body : List Char}

theorem body?_eq_some_iff :
    body? id = some body ↔ '\n' ∉ id ∧ id = "urn".toList ++ ':' :: body := by
  rw [body?]
  split
  · simp_all
  · rw [Text.behind?_eq_some_iff]
    simp_all

private theorem exists_body (hscheme : (segments id)[0]? = some "urn".toList)
    (hmore : 1 < (segments id).length) : ∃ body, id = "urn".toList ++ ':' :: body := by
  obtain ⟨scheme, rest, hsegments⟩ := List.exists_cons_of_ne_nil (segments_ne_nil id)
  rw [hsegments] at hscheme hmore
  obtain rfl := Option.some.inj hscheme
  have hrest : rest ≠ [] := by
    rintro rfl
    exact absurd hmore (lt_irrefl 1)
  refine ⟨[':'].intercalate rest, ?_⟩
  have hid : [':'].intercalate (segments id) = id := List.intercalate_splitOn ':'
  rw [← hid, hsegments, List.intercalate_cons_of_ne_nil hrest]
  simp

theorem segments_scheme_cons (body : List Char) :
    segments ("urn".toList ++ ':' :: body) = "urn".toList :: segments body :=
  segments_tag_cons (by decide) body

theorem isTagged_iff (first : Nat) (hfirst : 1 ≤ first) : IsTagged first tag id ↔
    ∃ body, body? id = some body ∧ ∃ i < (segments body).length - 1, first ≤ i + 1 ∧
      (segments body)[i]? = some tag.toList := by
  simp only [body?_eq_some_iff]
  constructor
  · rintro ⟨hline, hscheme, i, hlast, hi, htag⟩
    obtain ⟨body, rfl⟩ := exists_body hscheme (by omega)
    obtain ⟨j, rfl⟩ := Nat.exists_eq_add_of_le' (hfirst.trans hi)
    rw [segments_scheme_cons] at hlast htag
    rw [List.length_cons] at hlast
    exact ⟨body, ⟨hline, rfl⟩, j, by omega, hi, htag⟩
  · rintro ⟨body, ⟨hline, rfl⟩, i, hlast, hi, htag⟩
    rw [IsTagged, segments_scheme_cons, List.length_cons]
    exact ⟨hline, rfl, i + 1, by omega, hi, htag⟩

theorem toList_between (tag : String) : (between tag).toList = ':' :: (tag.toList ++ [':']) := by
  simp [between]

theorem hasSegment_iff (htag : ':' ∉ tag.toList) :
    hasSegment tag id = true ↔ IsTagged 1 tag id := by
  rw [hasSegment, Option.any_eq_true, isTagged_iff 1 le_rfl]
  refine exists_congr fun body => and_congr_right fun _ => ?_
  have hsegments : segments (':' :: body) = [] :: segments body := segments_append_cons [] body
  rw [Text.occurs_iff, toList_between, infix_iff_getElem? htag, hsegments, List.length_cons]
  constructor
  · rintro ⟨i, hlast, hi, hstands⟩
    obtain ⟨j, rfl⟩ := Nat.exists_eq_add_of_le' hi
    exact ⟨j, by omega, by omega, hstands⟩
  · rintro ⟨i, hlast, hi, hstands⟩
    exact ⟨i + 1, by omega, hi, hstands⟩

private theorem hasInnerSegment_iff (htag : ':' ∉ tag.toList) :
    hasInnerSegment tag id = true ↔ IsTagged 2 tag id := by
  rw [hasInnerSegment, Option.any_eq_true, isTagged_iff 2 (by decide)]
  refine exists_congr fun body => and_congr_right fun _ => ?_
  rw [Text.occurs_iff, toList_between, infix_iff_getElem? htag]
  simp only [Nat.succ_le_succ_iff]

/-- The scheme is the first segment; a broadcaster may be told by any of the others but the last, a
kind by one that has another segment between itself and the scheme. -/
theorem readings_eq_segments (id : List Char) :
    broadcaster? id = ([("srf", "srf"), ("rts", "rts"), ("rsi", "rsi"), ("rtr", "rtr"),
        ("rio", "playsuisse"), ("swi", "swi")].find? fun (tag, _) => IsTagged 1 tag id).map Prod.snd ∧
      kind? id = ["video", "audio"].find? (IsTagged 2 · id) ∧
      (isTextService id = true ↔ IsTagged 1 "swisstxt" id) := by
  refine ⟨?_, ?_, hasSegment_iff (by decide)⟩
  · have hcolon : ∀ m ∈ broadcasters, ':' ∉ m.1.toList := by decide
    rw [broadcaster?]
    refine congrArg _ (List.find?_congr fun m hm => ?_)
    exact Bool.eq_iff_iff.2 ((hasSegment_iff (hcolon m hm)).trans decide_eq_true_iff.symm)
  · have hcolon : ∀ tag ∈ kinds, ':' ∉ tag.toList := by decide
    rw [kind?]
    refine List.find?_congr fun tag htag => ?_
    exact Bool.eq_iff_iff.2 ((hasInnerSegment_iff (hcolon tag htag)).trans decide_eq_true_iff.symm)

/-- The first segment behind the scheme names no kind, and the last segment names nothing. -/
example : kind? "urn:video:audio:x:srf".toList = some "audio" ∧
    broadcaster? "urn:video:audio:x:srf".toList = none := by decide

end Readings

end PlaybackRelay.Media.Urn

import PlaybackRelay.Proofs.Event.Footprint
import PlaybackRelay.Proofs.Text.Search
import PlaybackRelay.Proofs.Url.Query

/-!
The page a player was loaded from. What it is shortened to does not tell what stands in its query
or its fragment, but whether it is taken for an embedded player does: the player's path is looked
for in all of the text. Main statements: `short?_append`, `isEmbedded_append`.
-/
namespace PlaybackRelay.Media.Origin

section Shortened

/-- Two pages that differ in a query or a fragment are shortened to the same text, or neither is. -/
theorem short?_append {first second : List Char} (page : List Char)
    (hfirst : first.head?.any Url.endsPath = true)
    (hsecond : second.head?.any Url.endsPath = true) :
    short? (page ++ first) = short? (page ++ second) := by
  rw [short?, short?, Url.parse_append page hfirst hsecond]

theorem short?_append_token :
    let page := "https://[2001:db8::1]:8443//play/../tv/a".toList
    short? (page ++ "?token=3f2a".toList) = short? (page ++ "#t=20".toList) ∧
      short? (page ++ "#t=20".toList) = some "[2001:db8::1]/tv".toList :=
  ⟨short?_append _ (by decide) (by decide), by decide +kernel⟩

end Shortened

section Embedded

variable {origin page : List Char} {separator : Char}

theorem isEmbedded_iff : isEmbedded origin = true ↔
    "/play/embed?".toList <:+: origin ∨ "/play/embed/".toList <:+: origin := by
  rw [isEmbedded, Bool.or_eq_true, Text.occurs_iff, Text.occurs_iff]

/-- No player's path goes on behind what begins a query or a fragment. -/
theorem isEmbedded_append_cons (hseparator : Url.endsPath separator = true)
    (page rest : List Char) : isEmbedded (page ++ separator :: rest) =
      (isEmbedded (page ++ [separator]) || isEmbedded rest) := by
  have hquery : ∀ c, Url.endsPath c = true → c ∉ "/play/embed?".toList.dropLast :=
    Url.forall_endsPath_iff.2 (by decide)
  have hpath : ∀ c, Url.endsPath c = true → c ∉ "/play/embed/".toList.dropLast :=
    Url.forall_endsPath_iff.2 (by decide)
  rw [Bool.eq_iff_iff, Bool.or_eq_true, isEmbedded_iff, isEmbedded_iff, isEmbedded_iff,
    Text.infix_append_cons_iff (hquery _ hseparator),
    Text.infix_append_cons_iff (hpath _ hseparator)]
  exact or_or_or_comm

theorem isEmbedded_concat_fragment (page : List Char) :
    isEmbedded (page ++ ['#']) = isEmbedded page := by
  rw [Bool.eq_iff_iff, isEmbedded_iff, isEmbedded_iff,
    Text.infix_concat_iff_of_notMem (by decide) (by decide),
    Text.infix_concat_iff_of_notMem (by decide) (by decide)]

theorem not_infix_of_notMem (hpage : '?' ∉ page) : ¬"/play/embed?".toList <:+: page :=
  fun h => hpage (h.subset (by decide))

theorem isEmbedded_iff_of_notMem (hpage : '?' ∉ page) :
    isEmbedded page = true ↔ "/play/embed/".toList <:+: page := by
  rw [isEmbedded_iff, or_iff_right (not_infix_of_notMem hpage)]

/-- An empty query shows where the path ends. -/
theorem isEmbedded_concat_query_iff (hpage : '?' ∉ page) : isEmbedded (page ++ ['?']) = true ↔
    "/play/embed".toList <:+ page ∨ "/play/embed/".toList <:+: page := by
  have hended : "/play/embed?".toList <:+: page ++ ['?'] ↔ "/play/embed".toList <:+ page := by
    have hlast : "/play/embed?".toList = "/play/embed".toList ++ ['?'] := by decide
    rw [List.infix_concat_iff, or_iff_left (not_infix_of_notMem hpage), hlast,
      List.suffix_append_inj_of_length_eq rfl, and_iff_left rfl]
  rw [isEmbedded_iff, hended, Text.infix_concat_iff_of_notMem (by decide) (by decide)]

theorem get?_embed_run_origin {data : Payload} {origin : String}
    (h : Enrichment.mediaString? "origin" data = some origin) :
    (Enrichment.run .origin data).get? "embed" = some (.bool (isEmbedded origin.toList)) := by
  rw [Enrichment.run, Enrichment.addOrigin_eq]
  simp only [h, Option.elim_some]
  exact Json.Members.get?_insert_self _ _ _

/-- A page is taken for an embedded player for its path, and also for what its query or its fragment
holds. -/
theorem isEmbedded_append (hpage : '?' ∉ page) (query fragment : List Char) :
    (isEmbedded page = true ↔ "/play/embed/".toList <:+: page) ∧
    (isEmbedded (page ++ ['?']) = true ↔
      "/play/embed".toList <:+ page ∨ "/play/embed/".toList <:+: page) ∧
    isEmbedded (page ++ '?' :: query) = (isEmbedded (page ++ ['?']) || isEmbedded query) ∧
    isEmbedded (page ++ '#' :: fragment) = (isEmbedded page || isEmbedded fragment) ∧
    ∀ data origin, Enrichment.mediaString? "origin" data = some origin →
      (Enrichment.run .origin data).get? "embed" = some (.bool (isEmbedded origin.toList)) := by
  refine ⟨isEmbedded_iff_of_notMem hpage, isEmbedded_concat_query_iff hpage,
    isEmbedded_append_cons rfl page query, ?_, fun data origin h => get?_embed_run_origin h⟩
  rw [isEmbedded_append_cons rfl, isEmbedded_concat_fragment]

theorem isEmbedded_append_live :
    let page := "https://www.rts.ch/live".toList
    let data : Payload := [("media", .object [
      ("origin", .string "https://www.rts.ch/live?from=/play/embed/1")])]
    '?' ∉ page ∧
      isEmbedded (page ++ ['?']) = false ∧
      isEmbedded (page ++ "?from=/play/embed/1".toList) = true ∧
      (Enrichment.run .origin data).get? "embed" = some (.bool true) := by
  intro page data
  have hpage : '?' ∉ page := by decide
  obtain ⟨-, -, hquery, -, hwritten⟩ := isEmbedded_append hpage "from=/play/embed/1".toList []
  have hflag : isEmbedded "https://www.rts.ch/live?from=/play/embed/1".toList = true := by decide
  exact ⟨hpage, by decide, hquery.trans (by decide),
    (hwritten data _ rfl).trans (congrArg (fun flag => some (Json.bool flag)) hflag)⟩

theorem exists_embedded_query : ¬∀ page query fragment : List Char, '?' ∉ page → '#' ∉ page →
    isEmbedded (page ++ '?' :: query) = isEmbedded (page ++ ['?']) ∧
      isEmbedded (page ++ '#' :: fragment) = isEmbedded page := by
  intro h
  have hquery := (h "https://www.rts.ch/live".toList "from=/play/embed/1".toList []
    (by decide) (by decide)).1
  revert hquery
  decide

end Embedded
end PlaybackRelay.Media.Origin

import PlaybackRelay.Failure.Category
import PlaybackRelay.Proofs.Text.Search

/-!
The log of a player in a browser names the cause of a failure last. Places are told by reading the
log as it stands, so that occurrences may overlap. Main statement: `ofWebLog?_eq_iff`.
-/
namespace PlaybackRelay.Failure.Category

open Text (StandsAt FinalAt)

section Teapot

/-- The log has the status that means a broken connection, with any white space around the colon. -/
def ShowsTeapot (log : List Char) : Prop :=
  ∃ before left right rest, (∀ c ∈ left, Text.isBlank c = true) ∧
    (∀ c ∈ right, Text.isBlank c = true) ∧ log = before ++ ("\"httpStatusCode\"".toList ++
      (left ++ ':' :: (right ++ ("418".toList ++ rest))))

variable {cs log : List Char}

private theorem isSome_teapotAt?_iff : (teapotAt? cs).isSome ↔
    ∃ left right rest, (∀ c ∈ left, Text.isBlank c = true) ∧
      (∀ c ∈ right, Text.isBlank c = true) ∧ cs = "\"httpStatusCode\"".toList ++
        (left ++ ':' :: (right ++ ("418".toList ++ rest))) := by
  constructor
  · intro h
    obtain ⟨_, h⟩ := Option.isSome_iff_exists.1 h
    simp only [teapotAt?, Option.bind_eq_bind, Option.bind_eq_some_iff] at h
    obtain ⟨behindName, hname, behindColon, hcolon, behindStatus, hstatus, -⟩ := h
    rw [Text.behind?_eq_some_iff] at hname hcolon hstatus
    obtain ⟨left, hleft, hleftText⟩ := Text.exists_append_trimStart behindName
    obtain ⟨right, hright, hrightText⟩ := Text.exists_append_trimStart behindColon
    refine ⟨left, right, behindStatus, hleft, hright, ?_⟩
    rw [hname, hleftText, hcolon, hrightText, hstatus, List.singleton_append]
  · rintro ⟨left, right, rest, hleft, hright, rfl⟩
    have hcolon : Text.trimStart (left ++ ':' :: (right ++ ("418".toList ++ rest))) =
        [':'] ++ (right ++ ("418".toList ++ rest)) :=
      Text.trimStart_append hleft (by decide) _
    have hstatus : Text.trimStart (right ++ ("418".toList ++ rest)) = "418".toList ++ rest :=
      Text.trimStart_append (c := '4') hright (by decide) _
    simp only [teapotAt?, Option.bind_eq_bind, Text.behind?_append, Option.bind_some, hcolon,
      hstatus]
    rfl

theorem hasTeapot_iff : hasTeapot log = true ↔ ShowsTeapot log := by
  rw [hasTeapot, Text.isSome_first?_iff]
  simp only [isSome_teapotAt?_iff, ShowsTeapot]
  constructor
  · rintro ⟨before, _, rfl, left, right, rest, hleft, hright, rfl⟩
    exact ⟨before, left, right, rest, hleft, hright, rfl⟩
  · rintro ⟨before, left, right, rest, hleft, hright, rfl⟩
    exact ⟨before, _, rfl, left, right, rest, hleft, hright, rfl⟩

end Teapot

section Markers

variable {m other : String × Category} {place : Nat} {log : List Char}

theorem toList_ne_nil_of_mem : ∀ m ∈ markers, m.1.toList ≠ [] := by decide

/-- Two markers overlap in one character at most. -/
theorem not_prefix_of_ne : ∀ m ∈ markers, ∀ other ∈ markers, m ≠ other →
    ∀ distance < m.1.toList.length - 1,
      ¬(m.1.toList.drop distance <+: other.1.toList ∨ other.1.toList <+: m.1.toList.drop distance) := by
  decide +kernel

theorem eq_of_standsAt (hm : m ∈ markers) (hother : other ∈ markers)
    (h : StandsAt m.1.toList place log) (h' : StandsAt other.1.toList place log) : m = other := by
  by_contra hne
  have hlong : ∀ m ∈ markers, 0 < m.1.toList.length - 1 := by decide
  exact not_prefix_of_ne m hm other hother hne 0 (hlong m hm) (h.prefix_or_prefix h')

private theorem le_of_standsAt (hm : m ∈ markers) (hother : other ∈ markers) (hne : m ≠ other)
    (h : StandsAt m.1.toList place log) {later : Nat} (h' : StandsAt other.1.toList later log)
    (hlater : place < later) : place + (m.1.toList.length - 1) ≤ later := by
  obtain ⟨distance, rfl⟩ := Nat.exists_eq_add_of_lt hlater
  by_contra hlt
  have hshared : distance + 1 < m.1.toList.length - 1 := by omega
  exact not_prefix_of_ne m hm other hother hne (distance + 1) hshared (h.prefix_or_prefix h')

/-- The marker stands in the log, and none begins further down than it does. -/
def StandsLast (log : List Char) (m : String × Category) : Prop :=
  ∃ place, StandsAt m.1.toList place log ∧
    ∀ other ∈ markers, ∀ later, StandsAt other.1.toList later log → later ≤ place

theorem StandsLast.unique (hm : m ∈ markers) (hother : other ∈ markers) (h : StandsLast log m)
    (h' : StandsLast log other) : m = other := by
  obtain ⟨place, hstands, hlast⟩ := h
  obtain ⟨place', hstands', hlast'⟩ := h'
  have hplace : place = place' :=
    Nat.le_antisymm (hlast' m hm place hstands) (hlast other hother place' hstands')
  exact eq_of_standsAt hm hother hstands (hplace ▸ hstands')

theorem exists_later (best : Option (Nat × Category)) (found : Nat × Category) :
    ∃ next, later best found = some next ∧ (next = found ∨ best = some next) ∧
      found.1 ≤ next.1 ∧ ∀ b ∈ best, b.1 ≤ next.1 := by
  cases best with
  | none => exact ⟨found, rfl, Or.inl rfl, le_rfl, nofun⟩
  | some b =>
    by_cases h : b.1 < found.1
    · exact ⟨found, by simp [later, h], Or.inl rfl, le_rfl, by simpa using h.le⟩
    · exact ⟨b, by simp [later, h], Or.inr rfl, not_lt.1 h, by simp⟩

private theorem exists_foldl_later (places : List (Nat × Category)) (best : Nat × Category) :
    ∃ last, places.foldl later (some best) = some last ∧ (last = best ∨ last ∈ places) ∧
      best.1 ≤ last.1 ∧ ∀ found ∈ places, found.1 ≤ last.1 := by
  induction places generalizing best with
  | nil => exact ⟨best, rfl, Or.inl rfl, le_rfl, nofun⟩
  | cons found places ih =>
    obtain ⟨next, hnext, horigin, hfound, hbest⟩ := exists_later (some best) found
    obtain ⟨last, hlast, hmem, hle, hall⟩ := ih next
    refine ⟨last, by rw [List.foldl_cons, hnext, hlast], ?_, (hbest best rfl).trans hle, ?_⟩
    · rcases hmem with rfl | hmem
      · exact horigin.elim (fun h => Or.inr (h ▸ List.mem_cons_self))
          fun h => Or.inl (Option.some.inj h).symm
      · exact Or.inr (List.mem_cons_of_mem found hmem)
    · exact List.forall_mem_cons.2 ⟨hfound.trans hle, hall⟩

/-- The markers in the log, each with the place of the last occurrence that is counted. -/
def counted (log : List Char) : List (Nat × Category) :=
  markers.filterMap fun m => (Text.lastStart? m.1 log).map (·, m.2)

theorem mem_counted_iff {found : Nat × Category} :
    found ∈ counted log ↔
      ∃ m ∈ markers, Text.lastStart? m.1 log = some found.1 ∧ m.2 = found.2 := by
  obtain ⟨place, category⟩ := found
  simp [counted, List.mem_filterMap, Option.map_eq_some_iff]

private theorem standsLast_of_mem_counted {found : Nat × Category} (h : found ∈ counted log)
    (hlast : ∀ f ∈ counted log, f.1 ≤ found.1) :
    ∃ m ∈ markers, m.2 = found.2 ∧ StandsLast log m := by
  obtain ⟨m, hm, hplace, hcategory⟩ := mem_counted_iff.1 h
  have hfinal := Text.finalAt_of_lastStart? (toList_ne_nil_of_mem m hm) hplace
  obtain ⟨place, hstands, hmost⟩ :=
    Text.exists_last_standsAt (Text.exists_standsAt_iff.1 ⟨_, hfinal.standsAt⟩)
  have hle : found.1 ≤ place := hmost _ hfinal.standsAt
  refine ⟨m, hm, hcategory, place, hstands, fun other hother later hlater => ?_⟩
  by_cases hne : other = m
  · exact hmost later (hne ▸ hlater)
  -- Of another marker nothing begins behind the end of what is counted, which is not further down.
  have hnonempty := toList_ne_nil_of_mem other hother
  have hoccurs : other.1.toList <:+: log := Text.exists_standsAt_iff.1 ⟨later, hlater⟩
  obtain ⟨otherPlace, hotherPlace⟩ : ∃ p, Text.lastStart? other.1 log = some p :=
    Option.ne_none_iff_exists'.1 fun hnone =>
      (Text.lastStart?_eq_none_iff hnonempty).1 hnone hoccurs
  have hotherFinal := Text.finalAt_of_lastStart? hnonempty hotherPlace
  have hotherLe : otherPlace ≤ found.1 :=
    hlast (otherPlace, other.2) (mem_counted_iff.2 ⟨other, hother, hotherPlace, rfl⟩)
  have hapart : otherPlace ≠ found.1 := by
    rintro rfl
    exact hne (eq_of_standsAt hother hm hotherFinal.standsAt hfinal.standsAt)
  have hend := le_of_standsAt hother hm hne hotherFinal.standsAt hfinal.standsAt (by omega)
  have hlt := hotherFinal.lt later hlater
  omega

private theorem lastMarker?_cases (log : List Char) :
    (∃ m ∈ markers, StandsLast log m ∧ lastMarker? log = some m.2) ∨
      (∀ m ∈ markers, ¬m.1.toList <:+: log) ∧ lastMarker? log = none := by
  have hmarker : lastMarker? log = ((counted log).foldl later none).map Prod.snd := rfl
  cases hcounted : counted log with
  | nil =>
    refine Or.inr ⟨fun m hm hoccurs => ?_, by rw [hmarker, hcounted]; rfl⟩
    have hnone : Text.lastStart? m.1 log = none := by
      rw [Option.eq_none_iff_forall_ne_some]
      intro place hplace
      have hmem : (place, m.2) ∈ counted log := mem_counted_iff.2 ⟨m, hm, hplace, rfl⟩
      rw [hcounted] at hmem
      contradiction
    exact (Text.lastStart?_eq_none_iff (toList_ne_nil_of_mem m hm)).1 hnone hoccurs
  | cons first rest =>
    obtain ⟨last, hlast, hmem, hfirst, hall⟩ := exists_foldl_later rest first
    have hlater : lastMarker? log = some last.2 := by
      rw [hmarker, hcounted, List.foldl_cons, later, hlast, Option.map_some]
    have hcountedLast : last ∈ counted log := by
      rw [hcounted]
      exact List.mem_cons.2 hmem
    have hbound : ∀ found ∈ first :: rest, found.1 ≤ last.1 :=
      List.forall_mem_cons.2 ⟨hfirst, hall⟩
    obtain ⟨m, hm, hcategory, hstands⟩ :=
      standsLast_of_mem_counted hcountedLast (hcounted ▸ hbound)
    exact Or.inl ⟨m, hm, hstands, by rw [hlater, hcategory]⟩

end Markers

/-- What caused a failure, if the log tells it. -/
inductive RootCause (log : List Char) : Option Category → Prop where
  | teapot : ShowsTeapot log → RootCause log (some .connection)
  | marker {m : String × Category} : ¬ShowsTeapot log → m ∈ markers → StandsLast log m →
      RootCause log (some m.2)
  | untold : ¬ShowsTeapot log → (∀ m ∈ markers, ¬m.1.toList <:+: log) → RootCause log none

theorem StandsLast.infix {m : String × Category} {log : List Char} (h : StandsLast log m) :
    m.1.toList <:+: log := by
  obtain ⟨place, hstands, -⟩ := h
  exact Text.exists_standsAt_iff.1 ⟨place, hstands⟩

theorem RootCause.unique {log : List Char} {r s : Option Category} (h : RootCause log r)
    (h' : RootCause log s) : r = s := by
  cases h with
  | teapot hteapot =>
    cases h' with
    | teapot => rfl
    | marker hnot | untold hnot => contradiction
  | marker hnot hm hlast =>
    cases h' with
    | teapot => contradiction
    | marker _ hother hlast' => rw [hlast.unique hm hother hlast']
    | untold _ hnone => exact absurd hlast.infix (hnone _ hm)
  | untold hnot hnone =>
    cases h' with
    | teapot => contradiction
    | marker _ hm hlast => exact absurd hlast.infix (hnone _ hm)
    | untold => rfl

theorem rootCause_ofWebLog? (log : List Char) : RootCause log (ofWebLog? log) := by
  rw [ofWebLog?]
  split
  · exact .teapot (hasTeapot_iff.1 ‹_›)
  · have hteapot : ¬ShowsTeapot log := fun h => absurd (hasTeapot_iff.2 h) ‹_›
    rcases lastMarker?_cases log with ⟨m, hm, hlast, hresult⟩ | ⟨hnone, hresult⟩
    · rw [hresult]
      exact .marker hteapot hm hlast
    · rw [hresult]
      exact .untold hteapot hnone

/-- The last occurrence of a marker may be one that is not counted, as it overlaps the one before. -/
example : ofWebLog? "ERROR_DRM_NOT_SUPPORTED_MESSAGERROR_DRM_NOT_SUPPORTED_MESSAGE".toList =
    some .drmNotSupported := by decide +kernel

end PlaybackRelay.Failure.Category

import PlaybackRelay.Agent.Analysis
import PlaybackRelay.Proofs.Agent.Crawler
import PlaybackRelay.Proofs.Text.Search
import PlaybackRelay.Proofs.Text.Trim

/-!
Which User-Agent texts are taken for attacks and which for robots. The flag is computed from four
fields of the agent, and says no more and no less than the rules by which the text was read. Main
statement: `isSuspect_ofText_iff`.
-/
namespace PlaybackRelay.Agent

section Rules

variable {ua cs : List Char}

/-- In small letters the text contains what attacks contain. -/
def ShowsAttack (ua : List Char) : Prop :=
  ∃ marker ∈ ["<script", "sqlmap", "nikto", "masscan", "' or '", "union select", "$\x7bjndi:"],
    marker.toList <:+: Text.lowerCase ua

/-- What the texts of known robots contain, in these letters. -/
def robotTokens : List String :=
  ["Applebot", "Googlebot", "AdsBot-Google", "bingbot", "YandexBot", "DuckDuckBot", "Baiduspider",
    "facebookexternalhit", "Twitterbot"]

def NamesKnownRobot (ua : List Char) : Prop := ∃ token ∈ robotTokens, token.toList <:+: ua

instance : DecidablePred ShowsAttack := fun ua =>
  inferInstanceAs (Decidable (∃ marker ∈ attackMarkers, marker.toList <:+: Text.lowerCase ua))

instance : DecidablePred NamesKnownRobot := fun ua =>
  inferInstanceAs (Decidable (∃ token ∈ robotTokens, token.toList <:+: ua))

def NamesRobot (ua : List Char) : Prop :=
  NamesKnownRobot ua ∨ NamesCrawler (robotCandidates ua)

theorem isAttack_iff : isAttack ua = true ↔ ShowsAttack ua := by
  simp only [isAttack, attackMarkers, List.any_eq_true, Text.occurs_iff, ShowsAttack]

theorem map_token_knownRobots : knownRobots.map (·.token) = robotTokens := rfl

theorem isSome_knownRobot?_iff : (knownRobot? ua).isSome ↔ NamesKnownRobot ua := by
  rw [knownRobot?, List.isSome_findSome?, List.any_eq_true, NamesKnownRobot,
    ← map_token_knownRobots]
  simp only [List.mem_map, exists_exists_and_eq_and, Option.isSome_map]
  exact exists_congr fun r => and_congr_right fun _ => Text.occurs_iff

theorem isSome_robot?_iff : (robot? ua).isSome ↔ NamesRobot ua := by
  rw [robot?, Option.isSome_or, Bool.or_eq_true, isSome_knownRobot?_iff, isSome_crawler?_iff,
    NamesRobot]

theorem ShowsAttack.of_isInfix (h : ShowsAttack ua) (hwithin : ua <:+: cs) : ShowsAttack cs := by
  obtain ⟨marker, hmarker, hstands⟩ := h
  obtain ⟨before, after, rfl⟩ := hwithin
  refine ⟨marker, hmarker, hstands.trans ?_⟩
  rw [Text.lowerCase, Text.lowerCase, List.flatMap_append, List.flatMap_append]
  exact ⟨_, _, rfl⟩

theorem not_showsAttack_nil : ¬ShowsAttack [] := by
  rintro ⟨marker, hmarker, hstands⟩
  have hne : ∀ marker ∈ attackMarkers, marker.toList ≠ [] := by decide
  exact hne marker hmarker (List.infix_nil.1 hstands)

theorem not_namesRobot_nil : ¬NamesRobot [] := by
  rintro (⟨token, htoken, hstands⟩ | hnames)
  · have hne : ∀ token ∈ robotTokens, token.toList ≠ [] := by decide
    exact hne token htoken (List.infix_nil.1 hstands)
  · exact not_namesCrawlerBehind_nil (namesCrawlerBehind_none.2 hnames)

end Rules

section Fields

variable {ua cs : List Char} {a : Agent}

private theorem exists_eq_robot_of_crawlerFrom {inName : Bool}
    (h : crawlerFrom inName cs = some a) :
    ∃ name version device, a = robot name version device := by
  obtain ⟨rest, h⟩ := exists_crawlerAt?_of_crawlerFrom h
  obtain ⟨_, -, rfl⟩ := Option.map_eq_some_iff.1 h
  exact ⟨_, _, _, rfl⟩

theorem exists_eq_robot (h : robot? ua = some a) :
    ∃ name version device, a = robot name version device := by
  rcases Option.or_eq_some_iff.1 h with h | ⟨-, h⟩
  · obtain ⟨r, -, h⟩ := List.exists_of_findSome?_eq_some h
    obtain ⟨rest, -, rfl⟩ := Option.map_eq_some_iff.1 h
    exact ⟨_, _, _, rfl⟩
  · exact exists_eq_robot_of_crawlerFrom h

/-- The kinds of devices that a browser runs on. -/
def deviceKinds : List String := ["TV", "Phone", "Tablet", "Desktop", unknown]

theorem device_kind_mem (ua : List Char) : (device ua).2 ∈ deviceKinds := by
  have hkinds : "TV" ∈ deviceKinds ∧ "Phone" ∈ deviceKinds ∧ "Tablet" ∈ deviceKinds ∧
      "Desktop" ∈ deviceKinds ∧ unknown ∈ deviceKinds := by decide
  obtain ⟨htv, hphone, htablet, hdesktop, hunknown⟩ := hkinds
  rw [device]
  repeat' split
  all_goals assumption

private theorem isSuspect_eq_false
    (h : ∀ kind ∈ [a.deviceKind, a.engine, a.kind, a.security], kind ∈ "Browser" :: deviceKinds) :
    a.isSuspect = false := by
  have hharmless : ∀ kind ∈ "Browser" :: deviceKinds,
      (Text.startsWithIgnoringAsciiCase "Hacker" kind.toList ||
        Text.startsWithIgnoringAsciiCase "Robot" kind.toList) = false := by decide
  rw [isSuspect, List.any_eq_false]
  intro kind hkind
  rw [hharmless kind (h kind hkind)]
  exact Bool.false_ne_true

theorem kind_ofBrowser (ua : List Char) :
    (ofBrowser ua).kind = "Browser" ∨ (ofBrowser ua).kind = unknown := by
  have hkind : (ofBrowser ua).kind = if (browser ua).1 = unknown then unknown else "Browser" := rfl
  rw [hkind]
  split
  · exact Or.inr rfl
  · exact Or.inl rfl

/-- Names and versions may be copied from the text, but a browser's kinds are not. -/
theorem isSuspect_ofBrowser (ua : List Char) : (ofBrowser ua).isSuspect = false := by
  have hkind : (ofBrowser ua).kind ∈ "Browser" :: deviceKinds := by
    rcases kind_ofBrowser ua with h | h <;> rw [h] <;> decide
  have hengine : (ofBrowser ua).engine = (ofBrowser ua).kind := rfl
  have hsecurity : (ofBrowser ua).security = unknown := rfl
  have hdevice : (ofBrowser ua).deviceKind = (device ua).2 := rfl
  refine isSuspect_eq_false fun kind hmem => ?_
  rw [hengine, hsecurity, hdevice] at hmem
  simp only [List.mem_cons, List.not_mem_nil, or_false] at hmem
  rcases hmem with rfl | rfl | rfl | rfl
  · exact List.mem_cons_of_mem _ (device_kind_mem ua)
  · exact hkind
  · exact hkind
  · decide

theorem isSuspect_robot (name version device : String) :
    (robot name version device).isSuspect = true := by
  have hrobot : Text.startsWithIgnoringAsciiCase "Robot" "Robot".toList = true := by decide
  simp only [isSuspect, robot, List.any_cons, hrobot, Bool.or_true, Bool.true_or]

end Fields

section Verdict

/-- An attack comes before a robot, and a robot before everything else. -/
inductive Verdict (ua : List Char) : Agent → Prop where
  | attack : ShowsAttack ua → Verdict ua attack
  | robot {name version device : String} : ¬ShowsAttack ua → NamesRobot ua →
      Verdict ua (robot name version device)
  | other {a : Agent} : ¬ShowsAttack ua → ¬NamesRobot ua → a.isSuspect = false →
      (a.kind = "Browser" ∨ a.kind = unknown) → Verdict ua a

variable {ua : List Char} {a : Agent}

theorem Verdict.isSuspect_iff (h : Verdict ua a) :
    a.isSuspect = true ↔ ShowsAttack ua ∨ NamesRobot ua := by
  cases h with
  | attack hattack => exact iff_of_true (by decide) (Or.inl hattack)
  | robot hattack hrobot => exact iff_of_true (isSuspect_robot _ _ _) (Or.inr hrobot)
  | other hattack hrobot hsuspect =>
    exact iff_of_false (by rw [hsuspect]; exact Bool.false_ne_true) (not_or.2 ⟨hattack, hrobot⟩)

theorem Verdict.kind_eq_hacker_iff (h : Verdict ua a) : a.kind = "Hacker" ↔ ShowsAttack ua := by
  cases h with
  | attack hattack => exact iff_of_true rfl hattack
  | robot hattack => exact iff_of_false (by decide : "Robot" ≠ "Hacker") hattack
  | other hattack _ _ hkind =>
    refine iff_of_false ?_ hattack
    rcases hkind with hkind | hkind <;> rw [hkind] <;> decide

theorem Verdict.kind_eq_robot_iff (h : Verdict ua a) :
    a.kind = "Robot" ↔ ¬ShowsAttack ua ∧ NamesRobot ua := by
  cases h with
  | attack hattack => exact iff_of_false (by decide) fun h => h.1 hattack
  | robot hattack hrobot => exact iff_of_true rfl ⟨hattack, hrobot⟩
  | other _ hrobot _ hkind =>
    refine iff_of_false ?_ fun h => hrobot h.2
    rcases hkind with hkind | hkind <;> rw [hkind] <;> decide

theorem Verdict.kind_eq_browser_or_iff (h : Verdict ua a) :
    a.kind = "Browser" ∨ a.kind = "??" ↔ a.isSuspect = false := by
  cases h with
  | attack => exact iff_of_false (by decide) (by decide)
  | robot =>
    rw [isSuspect_robot]
    exact iff_of_false (by decide : ¬("Robot" = "Browser" ∨ "Robot" = "??")) Bool.noConfusion
  | other _ _ hsuspect hkind => exact iff_of_true hkind hsuspect

theorem verdict_ofText (text : List Char) : Verdict (Text.trim text) (ofText text) := by
  rw [ofText]
  cases hempty : (Text.trim text).isEmpty with
  | true =>
    rw [List.isEmpty_iff] at hempty
    rw [if_pos rfl, hempty]
    exact .other not_showsAttack_nil not_namesRobot_nil (by decide) (Or.inr rfl)
  | false =>
    rw [if_neg Bool.false_ne_true]
    split
    · exact .attack (isAttack_iff.1 ‹_›)
    · have hattack : ¬ShowsAttack (Text.trim text) := fun h => absurd (isAttack_iff.2 h) ‹_›
      cases hrobot : robot? (Text.trim text) with
      | none =>
        have hnames : ¬NamesRobot (Text.trim text) := by
          rw [← isSome_robot?_iff, hrobot]
          exact Bool.false_ne_true
        exact .other hattack hnames (isSuspect_ofBrowser _) (kind_ofBrowser _)
      | some a =>
        obtain ⟨name, version, device, rfl⟩ := exists_eq_robot hrobot
        exact .robot hattack (isSome_robot?_iff.1 (by rw [hrobot]; rfl))

/-- A text is flagged just for an attack or a robot, whatever names and versions are taken from it;
and no text around an attack hides it. -/
theorem isSuspect_ofText_iff (text : List Char) :
    ((ofText text).isSuspect = true ↔ ShowsAttack (Text.trim text) ∨
        NamesKnownRobot (Text.trim text) ∨ NamesCrawler (robotCandidates (Text.trim text))) ∧
      ((ofText text).kind = "Hacker" ↔ ShowsAttack (Text.trim text)) ∧
      ((ofText text).kind = "Robot" ↔ ¬ShowsAttack (Text.trim text) ∧
        (NamesKnownRobot (Text.trim text) ∨ NamesCrawler (robotCandidates (Text.trim text)))) ∧
      ((ofText text).kind = "Browser" ∨ (ofText text).kind = "??" ↔
        (ofText text).isSuspect = false) ∧
      (∀ name version deviceName systemName systemVersion,
        isSuspect { ofText text with name, version, deviceName, systemName, systemVersion } =
          (ofText text).isSuspect) ∧
      (ShowsAttack (Text.trim text) → ∀ before after,
        (ofText (before ++ text ++ after)).kind = "Hacker" ∧
          (ofText (before ++ text ++ after)).isSuspect = true) := by
  have hverdict := verdict_ofText text
  refine ⟨hverdict.isSuspect_iff, hverdict.kind_eq_hacker_iff, hverdict.kind_eq_robot_iff,
    hverdict.kind_eq_browser_or_iff, fun _ _ _ _ _ => rfl, fun hattack before after => ?_⟩
  have hwhole := hattack.of_isInfix (Text.trim_infix_trim before text after)
  have hverdict := verdict_ofText (before ++ text ++ after)
  exact ⟨hverdict.kind_eq_hacker_iff.2 hwhole, hverdict.isSuspect_iff.2 (Or.inl hwhole)⟩

end Verdict

end PlaybackRelay.Agent

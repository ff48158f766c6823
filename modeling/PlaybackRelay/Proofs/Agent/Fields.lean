import PlaybackRelay.Proofs.Agent.Verdict
import PlaybackRelay.Proofs.Event.Footprint

/-!
Which fields of an agent can be empty. What a text does not tell is called unknown, and the steps
that cut a value out of it leave something of it, all but one: a browser's version that consists of
zero components alone loses them all. Main statement: `empty_ofText_iff`.
-/
namespace PlaybackRelay

namespace Agent

section Versions

variable {cs : List Char}

theorem productVersion_ne_empty (cs : List Char) : productVersion cs ≠ "" := by
  unfold productVersion
  dsimp only
  split
  case h_1 => decide
  case h_2 hne => exact mt String.ofList_eq_empty_iff.1 hne

private theorem dropZeros_eq_nil_iff :
    dropZeros cs = [] ↔ ∃ n, cs = (List.replicate n ['0', '.']).flatten := by
  fun_induction dropZeros cs with
  | case1 rest ih =>
    rw [ih]
    constructor
    · rintro ⟨n, rfl⟩
      exact ⟨n + 1, rfl⟩
    · rintro ⟨n, hn⟩
      cases n with
      | zero => contradiction
      | succ n => exact ⟨n, (List.cons.inj (List.cons.inj hn).2).2⟩
  | case2 cs hcs =>
    constructor
    · rintro rfl
      exact ⟨0, rfl⟩
    · rintro ⟨n, rfl⟩
      cases n with
      | zero => rfl
      | succ n => exact absurd rfl (hcs _)

/-- A version of nothing but zero components, such as `.0.0`. -/
def ZerosOnly (version : List Char) : Prop :=
  version ≠ [] ∧ ∃ n, version = (List.replicate n ['.', '0']).flatten

private theorem reverse_flatten_replicate (n : Nat) :
    (List.replicate n ['0', '.']).flatten.reverse = (List.replicate n ['.', '0']).flatten := by
  rw [List.reverse_flatten, List.map_replicate, List.reverse_replicate]
  rfl

theorem withoutZeros_eq_empty_iff {version : String} (h : version ≠ "") :
    withoutZeros version = "" ↔ ZerosOnly version.toList := by
  have hne : version.toList ≠ [] := mt String.toList_eq_nil_iff.1 h
  rw [withoutZeros, String.ofList_eq_empty_iff, List.reverse_eq_nil_iff, dropZeros_eq_nil_iff,
    ZerosOnly, and_iff_right hne]
  refine exists_congr fun n => ?_
  rw [List.reverse_eq_iff, reverse_flatten_replicate]

end Versions

section Browsers

variable {ua : List Char}

/-- What stands behind the token that a browser is known by. -/
def behindBrowser? (ua : List Char) : Option (List Char) :=
  ((browsers.findSome? fun (token, _) => Text.after? token ua).or
    (if Text.occurs "Safari/" ua then Text.after? "Version/" ua else none)).or
    (Text.after? "MSIE " ua)

private theorem map_snd_listedBrowser? (ua : List Char) : (listedBrowser? ua).map Prod.snd =
    (browsers.findSome? fun (token, _) => Text.after? token ua).map
      fun rest => withoutZeros (productVersion rest) := by
  simp only [listedBrowser?, List.map_findSome?, versionBehind?, Function.comp_def, Option.map_map]

private theorem map_snd_safari? (ua : List Char) : (safari? ua).map Prod.snd =
    (if Text.occurs "Safari/" ua then Text.after? "Version/" ua else none).map
      fun rest => withoutZeros (productVersion rest) := by
  unfold safari? versionBehind?
  split
  · simp only [Option.map_map, Function.comp_def]
  · rfl

private theorem map_snd_explorer? (ua : List Char) : (explorer? ua).map Prod.snd =
    ((Text.after? "MSIE " ua).map fun rest => withoutZeros (productVersion rest)).or
      (if Text.occurs "Trident/" ua then some "11" else none) := by
  unfold explorer? versionBehind?
  cases Text.after? "MSIE " ua with
  | none =>
    rw [Option.map_none, Option.none_or]
    exact apply_ite (Option.map Prod.snd) _ _ _
  | some rest => rfl

theorem version_browser (ua : List Char) : (browser ua).2 =
    (((behindBrowser? ua).map fun rest => withoutZeros (productVersion rest)).or
      (if Text.occurs "Trident/" ua then some "11" else none)).getD unknown := by
  have hversion (o : Option (String × String)) :
      (o.getD (unknown, unknown)).2 = (o.map Prod.snd).getD unknown := by
    cases o <;> rfl
  rw [browser, hversion, Option.map_or, Option.map_or, map_snd_listedBrowser?, map_snd_safari?,
    map_snd_explorer?, behindBrowser?, Option.map_or, Option.map_or, ← Option.or_assoc]

/-- The version behind the browser's token has no component other than zero. -/
def NamesBareBrowser (ua : List Char) : Prop :=
  ∃ rest, behindBrowser? ua = some rest ∧ ZerosOnly (productVersion rest).toList

theorem version_browser_eq_empty_iff : (browser ua).2 = "" ↔ NamesBareBrowser ua := by
  rw [version_browser, NamesBareBrowser]
  cases behindBrowser? ua with
  | none =>
    refine iff_of_false ?_ (by simp)
    rw [Option.map_none, Option.none_or]
    split <;> decide
  | some rest =>
    rw [Option.map_some, Option.some_or, Option.getD_some,
      withoutZeros_eq_empty_iff (productVersion_ne_empty rest)]
    simp

theorem name_browser_mem (ua : List Char) :
    (browser ua).1 ∈ unknown :: "Safari" :: "Internet Explorer" :: browsers.map Prod.snd := by
  rw [browser]
  cases h : ((listedBrowser? ua).or (safari? ua)).or (explorer? ua) with
  | none => exact List.mem_cons_self
  | some found =>
    rw [Option.getD_some]
    rcases Option.or_eq_some_iff.1 h with h | ⟨-, h⟩
    · rcases Option.or_eq_some_iff.1 h with h | ⟨-, h⟩
      · obtain ⟨listed, hlisted, h⟩ := List.exists_of_findSome?_eq_some h
        obtain ⟨version, -, rfl⟩ := Option.map_eq_some_iff.1 h
        simp only [List.mem_cons]
        exact Or.inr (Or.inr (Or.inr (List.mem_map_of_mem hlisted)))
      · unfold safari? at h
        split at h
        · obtain ⟨version, -, rfl⟩ := Option.map_eq_some_iff.1 h
          exact List.mem_cons_of_mem _ List.mem_cons_self
        · contradiction
    · have hname : found.1 = "Internet Explorer" := by
        unfold explorer? at h
        split at h
        · rw [← Option.some.inj h]
        · split at h
          · rw [← Option.some.inj h]
          · contradiction
      rw [hname]
      decide

theorem name_browser_ne_empty (ua : List Char) : (browser ua).1 ≠ "" := by
  have hnames : ∀ name ∈ unknown :: "Safari" :: "Internet Explorer" :: browsers.map Prod.snd,
      name ≠ "" := by decide
  exact hnames _ (name_browser_mem ua)

end Browsers

section Platforms

variable {isSeparator : Char → Bool} {cs numbers rest : List Char} {a : Android}
  {names : List String}

theorem ne_nil_of_numbers? (h : numbers? isSeparator cs = some (numbers, rest)) :
    numbers ≠ [] := by
  unfold numbers? at h
  split at h
  case isTrue hdigit =>
    cases cs with
    | nil => contradiction
    | cons c cs =>
      have hdigit : c.isDigit = true := hdigit
      rw [takeNumbers, hdigit, Bool.true_or, if_pos rfl] at h
      obtain ⟨rfl, -⟩ := Prod.mk.inj (Option.some.inj h)
      exact List.cons_ne_nil _ _
  case isFalse => contradiction

private theorem version_ne_nil_of_android? (h : android? cs = some a) : a.version ≠ [] := by
  obtain ⟨place, h⟩ := Text.exists_of_first?_eq_some h
  obtain ⟨behind, -, h⟩ := Option.bind_eq_some_iff.1 h
  obtain ⟨⟨version, rest⟩, hnumbers, h⟩ := Option.bind_eq_some_iff.1 h
  obtain rfl := Option.some.inj h
  exact ne_nil_of_numbers? hnumbers

theorem ne_nil_of_numbersBehind? (h : numbersBehind? names isSeparator cs = some numbers) :
    numbers ≠ [] := by
  obtain ⟨place, h⟩ := Text.exists_of_first?_eq_some h
  obtain ⟨name, -, h⟩ := List.exists_of_findSome?_eq_some h
  obtain ⟨behind, -, h⟩ := Option.bind_eq_some_iff.1 h
  obtain ⟨⟨found, rest⟩, hnumbers, h⟩ := Option.bind_eq_some_iff.1 h
  obtain rfl := Option.some.inj h
  exact ne_nil_of_numbers? hnumbers

private theorem device_ne_empty_of_android (a : Android) : a.device ≠ "" := by
  unfold Android.device
  dsimp only
  split
  case isTrue => decide
  case isFalse hmodel =>
    rw [not_or, List.isEmpty_iff] at hmodel
    exact mt String.ofList_eq_empty_iff.1 hmodel.1

theorem dotted_ne_empty (h : numbers ≠ []) : dotted numbers ≠ "" := by
  rw [dotted, ne_eq, String.ofList_eq_empty_iff, List.map_eq_nil_iff]
  exact h

theorem macVersion_ne_empty (h : numbers ≠ []) : macVersion numbers ≠ "" := by
  unfold macVersion
  dsimp only
  split
  · decide
  · exact dotted_ne_empty h

theorem windowsRelease_ne_empty (version : String) : windowsRelease version ≠ "" := by
  unfold windowsRelease
  split <;> decide

theorem name_device_ne_empty (ua : List Char) : (device ua).1 ≠ "" := by
  rw [device]
  repeat' split
  any_goals exact device_ne_empty_of_android _
  all_goals decide

theorem kind_device_ne_empty (ua : List Char) : (device ua).2 ≠ "" := by
  have hkinds : ∀ kind ∈ deviceKinds, kind ≠ "" := by decide
  exact hkinds _ (device_kind_mem ua)

theorem name_system_ne_empty (ua : List Char) : (system ua).1 ≠ "" := by
  rw [system]
  repeat' split
  all_goals
    dsimp only
    decide

theorem version_system_ne_empty (ua : List Char) : (system ua).2 ≠ "" := by
  unfold system
  split
  case h_1 numbers hnumbers => exact dotted_ne_empty (ne_nil_of_numbersBehind? hnumbers)
  split
  case h_1 a ha => exact mt String.ofList_eq_empty_iff.1 (version_ne_nil_of_android? ha)
  split
  case h_1 numbers hnumbers => exact macVersion_ne_empty (ne_nil_of_numbersBehind? hnumbers)
  split
  case h_1 version hversion => exact windowsRelease_ne_empty version
  repeat' split
  all_goals decide

end Platforms

section Robots

variable {ua cs after : List Char} {a : Agent} {found : List Char × List Char}

private theorem ne_nil_of_longestCrawlerName? (h : longestCrawlerName? cs after = some found) :
    found.1 ≠ [] := by
  fun_induction longestCrawlerName? cs after with
  | case1 after => contradiction
  | case2 c before after hends =>
    obtain rfl := Option.some.inj h
    exact List.reverse_ne_nil_iff.2 (List.cons_ne_nil _ _)
  | case3 c before after hends ih => exact ih h

/-- No field is empty but perhaps the version. -/
structure Filled (a : Agent) : Prop where
  name : a.name ≠ ""
  kind : a.kind ≠ ""
  security : a.security ≠ ""
  engine : a.engine ≠ ""
  deviceName : a.deviceName ≠ ""
  deviceKind : a.deviceKind ≠ ""
  systemName : a.systemName ≠ ""
  systemVersion : a.systemVersion ≠ ""

theorem filled_robot {name version device : String} (hname : name ≠ "") (hdevice : device ≠ "") :
    (robot name version device).Filled where
  name := hname
  kind := show "Robot" ≠ "" by decide
  security := show unknown ≠ "" by decide
  engine := show "Robot" ≠ "" by decide
  deviceName := hdevice
  deviceKind := show "Robot" ≠ "" by decide
  systemName := show "Cloud" ≠ "" by decide
  systemVersion := show unknown ≠ "" by decide

private theorem told_or_unknown_ne_empty (version : List Char) :
    (if version.isEmpty then unknown else String.ofList version) ≠ "" := by
  split
  case isTrue => decide
  case isFalse hversion => exact mt String.ofList_eq_empty_iff.1 (mt List.isEmpty_iff.2 hversion)

private theorem filled_of_crawlerAt? (h : crawlerAt? cs = some a) : a.Filled ∧ a.version ≠ "" := by
  obtain ⟨found, hfound, rfl⟩ := Option.map_eq_some_iff.1 h
  have hname := mt String.ofList_eq_empty_iff.1 (ne_nil_of_longestCrawlerName? hfound)
  refine ⟨filled_robot hname (by decide), ?_⟩
  exact told_or_unknown_ne_empty _

theorem filled_of_robot? (h : robot? ua = some a) : a.Filled ∧ a.version ≠ "" := by
  have hknown : ∀ r ∈ knownRobots, r.name ≠ "" ∧ r.device ≠ "" := by decide
  rcases Option.or_eq_some_iff.1 h with h | ⟨-, h⟩
  · obtain ⟨r, hr, h⟩ := List.exists_of_findSome?_eq_some h
    obtain ⟨rest, -, rfl⟩ := Option.map_eq_some_iff.1 h
    exact ⟨filled_robot (hknown r hr).1 (hknown r hr).2, productVersion_ne_empty rest⟩
  · obtain ⟨rest, h⟩ := exists_crawlerAt?_of_crawlerFrom h
    exact filled_of_crawlerAt? h

end Robots

section Fields

variable {ua : List Char}

theorem filled_ofBrowser (ua : List Char) : (ofBrowser ua).Filled where
  name := name_browser_ne_empty ua
  kind := by rcases kind_ofBrowser ua with h | h <;> rw [h] <;> decide
  security := show unknown ≠ "" by decide
  engine := by
    have hengine : (ofBrowser ua).engine = (ofBrowser ua).kind := rfl
    rcases kind_ofBrowser ua with h | h <;> rw [hengine, h] <;> decide
  deviceName := name_device_ne_empty ua
  deviceKind := kind_device_ne_empty ua
  systemName := name_system_ne_empty ua
  systemVersion := version_system_ne_empty ua

/-- A browser's version has nothing but zero components, and the text is taken for a browser's. -/
def LosesVersion (ua : List Char) : Prop :=
  ¬ShowsAttack ua ∧ ¬NamesRobot ua ∧ NamesBareBrowser ua

private theorem not_namesBareBrowser_nil : ¬NamesBareBrowser [] := by
  rintro ⟨rest, hrest, -⟩
  have hnone : behindBrowser? [] = none := by decide
  rw [hnone] at hrest
  contradiction

theorem empty_ofText (text : List Char) : (ofText text).Filled ∧
    ((ofText text).version = "" ↔ LosesVersion (Text.trim text)) := by
  unfold ofText LosesVersion
  dsimp only
  split
  case isTrue hempty =>
    rw [List.isEmpty_iff.1 hempty]
    refine ⟨by constructor <;> decide, iff_of_false (by decide) fun h => ?_⟩
    exact not_namesBareBrowser_nil h.2.2
  split
  case isTrue hattack =>
    refine ⟨by constructor <;> decide, iff_of_false (by decide) fun h => ?_⟩
    exact h.1 (isAttack_iff.1 hattack)
  case isFalse hattack =>
    rw [and_iff_right (mt isAttack_iff.2 hattack)]
    cases hrobot : robot? (Text.trim text) with
    | none =>
      have hnames : ¬NamesRobot (Text.trim text) := by
        rw [← isSome_robot?_iff, hrobot]
        exact Bool.false_ne_true
      rw [and_iff_right hnames]
      exact ⟨filled_ofBrowser _, version_browser_eq_empty_iff⟩
    | some a =>
      obtain ⟨hfilled, hversion⟩ := filled_of_robot? hrobot
      refine ⟨hfilled, iff_of_false hversion fun h => ?_⟩
      exact h.1 (isSome_robot?_iff.1 (by rw [hrobot]; rfl))

end Fields
end Agent

namespace Enrichment

open Json (Members)

/-- A member of an object in the payload. -/
def inner? (place : String × String) (data : Payload) : Option Json :=
  (data.object? place.1).bind (·.get? place.2)

/-- What is written down of an agent, and where. -/
def described (a : Agent) : List ((String × String) × String) := [
  (("browser", "name"), a.name), (("browser", "version"), a.version),
  (("device", "model"), a.deviceName), (("device", "type"), a.deviceKind),
  (("os", "name"), a.systemName), (("os", "version"), a.systemVersion)]

theorem told_eq_empty_iff (value : String) : told value = .string "" ↔ value = "" := by
  unfold told
  split
  case isTrue h =>
    rw [h]
    exact iff_of_false (by simp) (by decide)
  case isFalse => rw [Json.string.injEq]

/-- What is written down of an object is read there again. -/
theorem inner?_of_describe {outer name version value other : String} {inner data : Payload}
    (hne : name ≠ version)
    (h : data.object? outer = some (describe (name, value) (version, other) inner)) :
    inner? (outer, name) data = some (told value) ∧
      inner? (outer, version) data = some (told other) := by
  rw [inner?, inner?, h, Option.bind_some, Option.bind_some, describe,
    Members.get?_insert_of_ne hne, Members.get?_insert_self, Members.get?_insert_self]
  exact ⟨rfl, rfl⟩

theorem object?_inObject_self (name : String) (change : Payload → Payload) (data : Payload) :
    (data.inObject name change).object? name = some (change ((data.object? name).getD [])) :=
  Members.object?_insert_self _ _ _

theorem object?_inObject_of_ne {name other : String} (h : other ≠ name)
    (change : Payload → Payload) (data : Payload) :
    (data.inObject name change).object? other = data.object? other :=
  Members.object?_insert_of_ne h _ _

private theorem inner?_writeAgent {browser data : Payload}
    (h : data.object? "browser" = some browser) (a : Agent) :
    ∀ m ∈ described a, inner? m.1 (writeAgent a data) = some (told m.2) := by
  have hbrowser : Members.object? "browser" (writeAgent a data) =
      some (describe ("name", a.name) ("version", a.version) browser) := by
    rw [writeAgent, Function.comp_apply, Members.object?_insert_of_ne (by decide),
      Function.comp_apply, object?_inObject_of_ne (by decide), Function.comp_apply,
      object?_inObject_of_ne (by decide), Members.object?_onObject_self, h, Option.map_some]
  obtain ⟨device, hdevice⟩ : ∃ device, Members.object? "device" (writeAgent a data) =
      some (describe ("model", a.deviceName) ("type", a.deviceKind) device) := by
    rw [writeAgent, Function.comp_apply, Members.object?_insert_of_ne (by decide),
      Function.comp_apply, object?_inObject_of_ne (by decide), Function.comp_apply,
      object?_inObject_self]
    exact ⟨_, rfl⟩
  obtain ⟨system, hsystem⟩ : ∃ system, Members.object? "os" (writeAgent a data) =
      some (describe ("name", a.systemName) ("version", a.systemVersion) system) := by
    rw [writeAgent, Function.comp_apply, Members.object?_insert_of_ne (by decide),
      Function.comp_apply, object?_inObject_self]
    exact ⟨_, rfl⟩
  intro m hm
  simp only [described, List.mem_cons, List.not_mem_nil, or_false] at hm
  rcases hm with rfl | rfl | rfl | rfl | rfl | rfl
  · exact (inner?_of_describe (by decide) hbrowser).1
  · exact (inner?_of_describe (by decide) hbrowser).2
  · exact (inner?_of_describe (by decide) hdevice).1
  · exact (inner?_of_describe (by decide) hdevice).2
  · exact (inner?_of_describe (by decide) hsystem).1
  · exact (inner?_of_describe (by decide) hsystem).2

theorem inner?_run_agent {data : Payload} {text : String} (h : agentText? data = some text) :
    ∀ m ∈ described (Agent.ofText text.toList), inner? m.1 (run .agent data) = some (told m.2) := by
  obtain ⟨browser, hbrowser, -⟩ := Option.bind_eq_some_iff.1 h
  rw [run, addAgent_eq]
  simp only [h, Option.elim_some]
  exact inner?_writeAgent hbrowser _

end Enrichment

namespace Agent

open Enrichment (agentText? described inner?)

/-- Only the version can be empty, of an agent as of what is written down of it, and it is so just
for a browser whose version has no component other than zero. Without a text nothing is written. -/
theorem empty_ofText_iff (text : String) : (ofText text.toList).Filled ∧
    ((ofText text.toList).version = "" ↔ LosesVersion (Text.trim text.toList)) ∧
    (∀ data, agentText? data = some text → ∀ m ∈ described (ofText text.toList),
      (inner? m.1 (Enrichment.run .agent data) = some (.string "") ↔
        m.1 = ("browser", "version") ∧ LosesVersion (Text.trim text.toList))) ∧
    ∀ data, agentText? data = none → Enrichment.run .agent data = data := by
  obtain ⟨hfilled, hversion⟩ := empty_ofText text.toList
  refine ⟨hfilled, hversion, fun data hdata m hm => ?_, fun data hdata => ?_⟩
  · rw [Enrichment.inner?_run_agent hdata m hm, Option.some.injEq, Enrichment.told_eq_empty_iff]
    simp only [described, List.mem_cons, List.not_mem_nil, or_false] at hm
    rcases hm with rfl | rfl | rfl | rfl | rfl | rfl
    · exact iff_of_false hfilled.name (by simp)
    · rw [hversion, and_iff_right rfl]
    · exact iff_of_false hfilled.deviceName (by simp)
    · exact iff_of_false hfilled.deviceKind (by simp)
    · exact iff_of_false hfilled.systemName (by simp)
    · exact iff_of_false hfilled.systemVersion (by simp)
  · rw [Enrichment.run, Enrichment.addAgent_eq]
    simp only [hdata, Option.elim_none]

/-- A browser that calls itself by zero components. -/
def zerosChrome : String := "Chrome/.0.0 Safari/537.36"

theorem empty_ofText_zerosChrome :
    let data : Payload := [("browser", .object [("user_agent", .string zerosChrome)])]
    agentText? data = some zerosChrome ∧ LosesVersion (Text.trim zerosChrome.toList) ∧
      inner? ("browser", "version") (Enrichment.run .agent data) = some (.string "") := by
  intro data
  obtain ⟨-, hversion, hwritten, -⟩ := empty_ofText_iff zerosChrome
  have hloses := hversion.1 (by decide +kernel)
  have hplace (a : Agent) : (("browser", "version"), a.version) ∈ described a :=
    List.mem_cons_of_mem _ List.mem_cons_self
  exact ⟨rfl, hloses, (hwritten data rfl _ (hplace _)).2 ⟨rfl, hloses⟩⟩

theorem exists_empty_version :
    ¬∀ text : String, (ofText text.toList).Filled ∧ (ofText text.toList).version ≠ "" := by
  intro h
  have hversion := (h "Chrome/.0").2
  revert hversion
  decide +kernel

end Agent
end PlaybackRelay

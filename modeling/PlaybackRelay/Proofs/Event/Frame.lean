import PlaybackRelay.Proofs.Event.Idempotence

/-!
What enriching an event leaves alone. Apart from the integers that are brought into range, only a
few members of the payload change, some of them inside objects, and none is lost. Main statement:
`enrich_frame`.
-/
namespace PlaybackRelay

namespace Json.Members

/-- Nothing but the members under some names has changed, and all names are still there. -/
structure Confined (names : List String) (before after : Members) : Prop where
  get?_eq : ∀ name ∉ names, after.get? name = before.get? name
  isSome : ∀ name, (before.get? name).isSome → (after.get? name).isSome

namespace Confined

variable {names : List String} {name : String} {ms ns ks : Members}

protected theorem refl (names : List String) (ms : Members) : Confined names ms ms :=
  ⟨fun _ _ => rfl, fun _ h => h⟩

theorem trans (h : Confined names ms ns) (hlater : Confined names ns ks) : Confined names ms ks :=
  ⟨fun name hname => (hlater.get?_eq name hname).trans (h.get?_eq name hname),
    fun name hname => hlater.isSome name (h.isSome name hname)⟩

theorem insert (h : name ∈ names) (ms : Members) (value : Json) :
    Confined names ms (ms.insert name value) := by
  refine ⟨fun other hother => ?_, fun other hother => ?_⟩
  · have hne : other ≠ name := by
      rintro rfl
      exact hother h
    exact get?_insert_of_ne hne ms value
  · by_cases hne : other = name
    · rw [hne, get?_insert_self, Option.isSome_some]
    · rwa [get?_insert_of_ne hne]

end Confined

/-- How a member may change: not at all, under some names inside the object that it holds, or in any
way. What is no object stays as it is inside, unless it may be replaced by one. -/
inductive Permission where
  | fixed
  | inside (names : List String) (replaceable : Bool)
  | free

namespace Permission

/-- A member that is there stays there, whatever the permission. -/
inductive Allows : Permission → Option Json → Option Json → Prop
  | same (p : Permission) (value : Option Json) : Allows p value value
  | changed {names : List String} {replaceable : Bool} {before after : Members} :
    Confined names before after →
      Allows (.inside names replaceable) (some (.object before)) (some (.object after))
  | replaced {names : List String} {before : Option Json} {after : Members} :
    before.bind members? = none → Confined names [] after →
      Allows (.inside names true) before (some (.object after))
  | written (before : Option Json) (after : Json) : Allows .free before (some after)

theorem Allows.trans {p : Permission} {v w x : Option Json} (h : p.Allows v w)
    (hlater : p.Allows w x) : p.Allows v x := by
  cases h with
  | same => exact hlater
  | changed hinner =>
    cases hlater with
    | same => exact .changed hinner
    | changed hnext => exact .changed (hinner.trans hnext)
    | replaced hobject => contradiction
  | replaced hother hinner =>
    cases hlater with
    | same => exact .replaced hother hinner
    | changed hnext => exact .replaced hother (hinner.trans hnext)
    | replaced hobject => contradiction
  | written =>
    cases hlater with
    | same | written => exact .written _ _

theorem Allows.isSome {p : Permission} {v w : Option Json} (h : p.Allows v w)
    (hv : v.isSome) : w.isSome := by
  cases h with
  | same => exact hv
  | changed | replaced | written => rfl

end Permission

/-- Every member has changed as it may. -/
def Within (frame : String → Permission) (before after : Members) : Prop :=
  ∀ name, (frame name).Allows (before.get? name) (after.get? name)

namespace Within

variable {frame : String → Permission} {name : String} {names : List String} {replaceable : Bool}
variable {change : Members → Members} {ms ns ks : Members}

protected theorem refl (frame : String → Permission) (ms : Members) : Within frame ms ms :=
  fun _ => .same _ _

theorem trans (h : Within frame ms ns) (hlater : Within frame ns ks) : Within frame ms ks :=
  fun name => (h name).trans (hlater name)

theorem of_insert {value : Json} (h : (frame name).Allows (ms.get? name) (some value)) :
    Within frame ms (ms.insert name value) := by
  intro other
  by_cases hne : other = name
  · rwa [hne, get?_insert_self]
  · rw [get?_insert_of_ne hne]
    exact .same _ _

theorem insert (h : frame name = .free) (ms : Members) (value : Json) :
    Within frame ms (ms.insert name value) :=
  of_insert (h ▸ .written _ _)

theorem get?_of_object? {inner : Members} (h : ms.object? name = some inner) :
    ms.get? name = some (.object inner) := by
  obtain ⟨value, hvalue, hinner⟩ := Option.bind_eq_some_iff.1 h
  cases value with
  | object => rw [hvalue, Option.some.inj hinner]
  | _ => contradiction

theorem onObject (h : frame name = .inside names replaceable)
    (hchange : ∀ inner, Confined names inner (change inner)) (ms : Members) :
    Within frame ms (ms.onObject name change) := by
  cases hinner : ms.object? name with
  | none =>
    rw [onObject_of_none hinner]
    exact .refl frame ms
  | some inner =>
    rw [onObject_of_some hinner]
    refine of_insert ?_
    rw [h, get?_of_object? hinner]
    exact .changed (hchange inner)

theorem inObject (h : frame name = .inside names true)
    (hchange : ∀ inner, Confined names inner (change inner)) (ms : Members) :
    Within frame ms (ms.inObject name change) := by
  refine of_insert ?_
  rw [h]
  cases hinner : ms.object? name with
  | none => exact .replaced hinner (hchange [])
  | some inner =>
    rw [get?_of_object? hinner]
    exact .changed (hchange inner)

end Within

end Json.Members

namespace Enrichment

open Json (clampMembers Members)
open Json.Members (Confined Permission Within)

/-- What may be written of a failure. -/
def errorFrame : String → Permission
  | "block_reason" | "business_error" | "error_type" => .free
  | _ => .fixed

/-- What may be written of a start. A description of the device and of its system takes the place of
what is no object only if the browser was analysed. -/
def startFrame (analysed : Bool) : String → Permission
  | "browser" => .inside ["name", "version"] false
  | "device" => .inside ["model", "type"] analysed
  | "os" => .inside ["name", "version"] analysed
  | "media" => .inside ["bu", "type", "swisstxt", "short_origin"] false
  | "robot" | "embed" => .free
  | _ => .fixed

section Single

variable {names : List String} {eventName : String} {x : Enrichment} {data : Payload}

theorem confined_describe (name version : String × String) (ms : Payload) :
    Confined [name.1, version.1] ms (describe name version ms) :=
  (Confined.insert List.mem_cons_self ms _).trans
    (.insert (List.mem_cons_of_mem _ List.mem_cons_self) _ _)

theorem confined_insertSome {name : String} (h : name ∈ names) (value : Option Json)
    (ms : Payload) : Confined names ms (insertSome name value ms) := by
  cases value with
  | none => exact .refl names ms
  | some v => exact .insert h ms v

private theorem confined_readUrn (media : Payload) :
    Confined ["bu", "type", "swisstxt", "short_origin"] media (readUrn media) := by
  unfold readUrn
  cases media.string? "id" with
  | none => exact .refl _ media
  | some id =>
    refine ((confined_insertSome ?_ _ media).trans (confined_insertSome ?_ _ _)).trans
      (confined_insertSome ?_ _ _) <;> decide

private theorem confined_nameDevice (device : Payload) :
    Confined ["model", "type"] device (nameDevice device) := by
  unfold nameDevice
  cases modelName? device with
  | none => exact .refl _ device
  | some name => exact .insert (by decide) device _

private theorem within_writeAgent (agent : Agent) (data : Payload) :
    Within (startFrame true) data (writeAgent agent data) := by
  have hbrowser : Within (startFrame true) data (data.onObject "browser"
      (describe ("name", agent.name) ("version", agent.version))) :=
    .onObject (by rfl) (confined_describe _ _) data
  have hdevice := hbrowser.trans (.inObject (show startFrame true "device" = _ by rfl)
    (confined_describe ("model", agent.deviceName) ("type", agent.deviceKind)) _)
  have hsystem := hdevice.trans (.inObject (show startFrame true "os" = _ by rfl)
    (confined_describe ("name", agent.systemName) ("version", agent.systemVersion)) _)
  exact hsystem.trans (.insert (by rfl) _ _)

private theorem within_writeOrigin (analysed : Bool) (page : String) (data : Payload) :
    Within (startFrame analysed) data (writeOrigin page data) := by
  have hmedia : Within (startFrame analysed) data
      (data.onObject "media" (insertSome "short_origin" (short? page))) :=
    .onObject (by rfl) (confined_insertSome (by decide) _) data
  exact hmedia.trans (.insert (by rfl) _ _)

private theorem within_writeRestriction (reason : Option Failure.Restriction) (data : Payload) :
    Within errorFrame data (writeRestriction reason data) := by
  cases reason with
  | none => exact .insert (by rfl) data _
  | some reason =>
    have hreason : Within errorFrame data (data.insert "block_reason" (.string reason.code)) :=
      .insert (by rfl) data _
    exact hreason.trans (.insert (by rfl) _ _)

theorem within_act {frame : String → Permission}
    (h : x.applies eventName data = true → Within frame data (x.run data)) :
    Within frame data (x.act eventName data) := by
  unfold act
  split
  · exact h ‹_›
  · exact .refl frame data

private theorem within_act_start (hx : x ≠ .integers) (data : Payload) :
    Within (startFrame (agentText? data).isSome) data (x.act Event.startName data) := by
  refine within_act fun happlies => ?_
  cases x with
  | agent =>
    simp only [run, addAgent_eq]
    cases agentText? data with
    | none => exact .refl _ data
    | some text => exact within_writeAgent _ data
  | deviceName =>
    rw [run, addDeviceName_eq]
    exact .onObject (by rfl) confined_nameDevice data
  | restriction | failure => contradiction
  | mediaUrn =>
    rw [run, addUrn_eq]
    exact .onObject (by rfl) confined_readUrn data
  | origin =>
    simp only [run, addOrigin_eq]
    cases mediaString? "origin" data with
    | none => exact .refl _ data
    | some page => exact within_writeOrigin _ page data
  | integers => contradiction

private theorem within_act_error (hx : x ≠ .integers) (data : Payload) :
    Within errorFrame data (x.act Event.errorName data) := by
  refine within_act fun happlies => ?_
  cases x with
  | agent | deviceName | mediaUrn | origin => contradiction
  | restriction =>
    rw [run, addRestriction_eq]
    exact within_writeRestriction _ data
  | failure => exact .insert (by rfl) data _
  | integers => contradiction

/-- Whether the browser can be analysed is the same before and after any enrichment. -/
theorem agentText?_act (eventName : String) (x : Enrichment) (data : Payload) :
    agentText? (x.act eventName data) = agentText? data := by
  have hreads : Members.ReadsOnly ["browser"] agentText? := readsOnly_agentText? (by decide)
  have hapart (hx : x ≠ .integers) (h : "browser" ∉ x.footprint) :
      agentText? (x.act eventName data) = agentText? data :=
    hreads.read_eq (touches_act eventName hx)
      (fun name hname hmem => h (List.mem_singleton.1 hmem ▸ hname)) data
  cases x with
  | agent =>
    rcases act_eq_or eventName .agent data with h | h
    · rw [h, run, addAgent_eq]
      cases htext : agentText? data with
      | none => simp only [htext, Option.elim_none]
      | some text => simp only [htext, Option.elim_some, agentText?_writeAgent]
    · rw [h]
  | deviceName | restriction | failure | mediaUrn | origin => exact hapart (by decide) (by decide)
  | integers => exact agentText?_clampMembers data

end Single

section Pipeline

variable {eventName : String} {order : List Enrichment}

private theorem within_actAll_start (horder : ∀ x ∈ order, x ≠ .integers) (data : Payload) :
    Within (startFrame (agentText? data).isSome) data (actAll Event.startName order data) := by
  induction order generalizing data with
  | nil => exact .refl _ data
  | cons x order ih =>
    obtain ⟨hx, hrest⟩ := List.forall_mem_cons.1 horder
    have hnext := ih hrest (x.act Event.startName data)
    rw [agentText?_act] at hnext
    exact (within_act_start hx data).trans hnext

private theorem within_actAll_error (horder : ∀ x ∈ order, x ≠ .integers) (data : Payload) :
    Within errorFrame data (actAll Event.errorName order data) := by
  induction order generalizing data with
  | nil => exact .refl _ data
  | cons x order ih =>
    obtain ⟨hx, hrest⟩ := List.forall_mem_cons.1 horder
    exact (within_act_error hx data).trans (ih hrest _)

theorem actAll_of_ne (hstart : eventName ≠ Event.startName) (herror : eventName ≠ Event.errorName)
    (horder : ∀ x ∈ order, x ≠ .integers) (data : Payload) : actAll eventName order data = data := by
  induction order generalizing data with
  | nil => rfl
  | cons x order ih =>
    obtain ⟨hx, hrest⟩ := List.forall_mem_cons.1 horder
    have hidle : x.act eventName data = data := by
      cases x with
      | integers => contradiction
      | _ => exact if_neg (by simp [applies, hstart, herror])
    rw [actAll, List.foldl_cons, hidle]
    exact ih hrest data

/-- Integers may as well be brought into range before all else. -/
theorem actAll_all (eventName : String) (data : Payload) :
    actAll eventName all data =
      actAll eventName (all.erase .integers) (clampMembers data) := by
  have hlast : actAll eventName all data =
      clampMembers (actAll eventName (all.erase .integers) data) := rfl
  have hcommute : Function.Commute (act eventName .integers)
      (actAll eventName (all.erase .integers)) := commute_act_actAll (by decide)
  rw [hlast]
  exact hcommute data

end Pipeline

end Enrichment

namespace Event

open Enrichment (agentText? errorFrame startFrame)
open Json (clampMembers)
open Json.Members (Within)

/-- Nothing but the payload is touched, and of that, once its integers are brought into range, only
a few members, when playback starts or fails. -/
theorem enrich_frame (e : Event) :
    e.enrich = { e with data := e.enrich.data } ∧
      (e.name ≠ startName → e.name ≠ errorName → e.enrich.data = clampMembers e.data) ∧
      (e.name = errorName → Within errorFrame (clampMembers e.data) e.enrich.data) ∧
      (e.name = startName →
        Within (startFrame (agentText? e.data).isSome) (clampMembers e.data) e.enrich.data) ∧
      ∀ name, (e.data.get? name).isSome → (e.enrich.data.get? name).isSome := by
  have henrich : e.enrich = { e with
      data := Enrichment.actAll e.name (Enrichment.all.erase .integers) (clampMembers e.data) } := by
    rw [enrich, Enrichment.enrichWith_eq, Enrichment.actAll_all]
  have hother : e.name ≠ startName → e.name ≠ errorName → e.enrich.data = clampMembers e.data := by
    intro hstart herror
    rw [henrich]
    exact Enrichment.actAll_of_ne hstart herror (by decide) _
  have herror : e.name = errorName → Within errorFrame (clampMembers e.data) e.enrich.data := by
    intro hname
    rw [henrich, hname]
    exact Enrichment.within_actAll_error (by decide) _
  have hstart : e.name = startName →
      Within (startFrame (agentText? e.data).isSome) (clampMembers e.data) e.enrich.data := by
    intro hname
    rw [henrich, hname, ← Enrichment.agentText?_clampMembers e.data]
    exact Enrichment.within_actAll_start (by decide) _
  refine ⟨by rw [henrich], hother, herror, hstart, fun name hpresent => ?_⟩
  have hclamped : (Json.Members.get? name (clampMembers e.data)).isSome := by
    rwa [Json.Members.get?_clampMembers, Option.isSome_map]
  by_cases hs : e.name = startName
  · exact (hstart hs name).isSome hclamped
  · by_cases hf : e.name = errorName
    · exact (herror hf name).isSome hclamped
    · rwa [hother hs hf]

end Event
end PlaybackRelay

import PlaybackRelay.Proofs.Event.Footprint
import PlaybackRelay.Proofs.Text.Utf8

/-!
Enriching an event that was enriched before changes nothing. An enrichment may undo what a later one
did, but then the later one does it again. Main statement: `enrich_enrich`.
-/
namespace PlaybackRelay

namespace Device

theorem mem_of_modelName? {identifier : List Char} {name : String}
    (h : modelName? identifier = some name) :
    (String.ofList (Text.trim identifier), name) ∈ models := by
  obtain ⟨before, after, hmodels, -⟩ := List.lookup_eq_some_iff.1 h
  rw [hmodels]
  exact List.mem_append_right before List.mem_cons_self

/-- Hardware identifiers have a comma and no blank. -/
def looksLikeIdentifier (cs : List Char) : Bool := cs.contains ',' && !cs.contains ' '

theorem looksLikeIdentifier_of_mem : ∀ m ∈ models, looksLikeIdentifier m.1.toList = true ∧
    looksLikeIdentifier (Text.trim m.2.toList) = false := by
  simp only [Text.Utf8.toList_eq_decodeLossy]
  decide +kernel

/-- The name of a model is not the identifier of another one. -/
theorem modelName?_of_modelName? {identifier : List Char} {name : String}
    (h : modelName? identifier = some name) : modelName? name.toList = none := by
  rw [Option.eq_none_iff_forall_ne_some]
  intro other hother
  have hname := (looksLikeIdentifier_of_mem _ (mem_of_modelName? h)).2
  have hidentifier := (looksLikeIdentifier_of_mem _ (mem_of_modelName? hother)).1
  rw [String.toList_ofList, hname] at hidentifier
  exact Bool.false_ne_true hidentifier

end Device

namespace Enrichment

open Json (Members clampMembers)
open Json.Members (Idempotent ReadsOnly Settles Touches)

section Written

theorem settles_insertSome (name : String) (value : Option Json) :
    Settles [name] (insertSome name value) := by
  cases value with
  | none => exact ⟨.id, .id⟩
  | some v => exact .insert name v

theorem idempotent_describe {name version : String × String} (h : version.1 ≠ name.1) :
    Idempotent (describe name version) :=
  (Settles.comp (.insert version.1 _) (.insert name.1 _) (by simpa using h)).idempotent

private theorem idempotent_writeAgent (agent : Agent) : Idempotent (writeAgent agent) := by
  have hbrowser : Idempotent (describe ("name", agent.name) ("version", agent.version)) :=
    idempotent_describe (show "version" ≠ "name" by decide)
  have hdevice : Idempotent (describe ("model", agent.deviceName) ("type", agent.deviceKind)) :=
    idempotent_describe (show "type" ≠ "model" by decide)
  have hsystem : Idempotent (describe ("name", agent.systemName)
      ("version", agent.systemVersion)) :=
    idempotent_describe (show "version" ≠ "name" by decide)
  have hobjects := Settles.comp (.inObject hdevice "device") (.onObject hbrowser "browser")
    (by decide)
  have hall := Settles.comp (.inObject hsystem "os") hobjects (by decide)
  exact (Settles.comp (.insert "robot" (.bool agent.isSuspect)) hall (by decide)).idempotent

private theorem idempotent_writeRestriction (reason : Option Failure.Restriction) :
    Idempotent (writeRestriction reason) := by
  cases reason with
  | none => exact .insert _ _
  | some reason => exact (Settles.comp (.insert _ _) (.insert _ _) (by decide)).idempotent

private theorem idempotent_writeUrn (id : String) : Idempotent (writeUrn id) :=
  (Settles.comp (settles_insertSome _ _)
    (.comp (settles_insertSome _ _) (settles_insertSome _ _) (by decide)) (by decide)).idempotent

private theorem idempotent_writeOrigin (page : String) : Idempotent (writeOrigin page) :=
  (Settles.comp (.insert _ _) (.onObject (settles_insertSome _ _).idempotent _)
    (by decide)).idempotent

end Written

section Single

theorem agentText?_writeAgent (agent : Agent) (data : Payload) :
    agentText? (writeAgent agent data) = agentText? data := by
  simp only [agentText?, writeAgent, Function.comp_apply, Members.inObject]
  rw [Members.object?_insert_of_ne (by decide), Members.object?_insert_of_ne (by decide),
    Members.object?_insert_of_ne (by decide), Members.object?_onObject_self, Option.bind_map]
  refine Option.bind_congr fun browser _ => ?_
  rw [Function.comp_apply, describe,
    Members.string?_insert_of_ne (show "user_agent" ≠ "version" by decide),
    Members.string?_insert_of_ne (show "user_agent" ≠ "name" by decide)]

/-- Once a device has the name of its model, that one is no identifier. -/
theorem idempotent_nameDevice : Idempotent nameDevice := by
  intro device
  cases hname : modelName? device with
  | none => simp [nameDevice, hname]
  | some name =>
    obtain ⟨model, -, hmodel⟩ := Option.bind_eq_some_iff.1 hname
    have hlater : modelName? (device.insert "model" (.string name)) = none := by
      rw [modelName?, Members.string?_insert_self, Option.bind_some,
        Device.modelName?_of_modelName? hmodel]
    simp [nameDevice, hname, hlater]

theorem idempotent_run (x : Enrichment) : Idempotent x.run := by
  cases x with
  | agent =>
    rw [run, addAgent_eq]
    exact .ofSome (fun data text => agentText?_writeAgent _ data) fun text => idempotent_writeAgent _
  | deviceName =>
    rw [run, addDeviceName_eq]
    exact idempotent_nameDevice.onObject "device"
  | restriction =>
    rw [run, addRestriction_eq]
    have hmessage : ReadsOnly ["message"] restriction? := readsOnly_restriction? (by decide)
    exact .ofRead (fun data => hmessage.read_eq (touches_writeRestriction _) (by decide) data)
      idempotent_writeRestriction
  | failure =>
    have hcategory : ReadsOnly ["log", "name"] category :=
      readsOnly_category (by decide) (by decide)
    have h := Idempotent.ofRead (fun data => hcategory data "error_type" _ (by decide))
      fun c : Failure.Category => Idempotent.insert "error_type" (.string c.code)
    exact h
  | mediaUrn =>
    rw [run, addUrn_eq]
    refine .onObject (.ofSome (fun media id => ?_) idempotent_writeUrn) "media"
    exact string?_writeUrn (by decide) id media
  | origin =>
    rw [run, addOrigin_eq]
    exact .ofSome (fun data page => mediaString?_writeOrigin (by decide) page data)
      idempotent_writeOrigin
  | integers => exact Members.idempotent_clampMembers

/-- An enrichment leaves alone what tells whether it is meant for an event. -/
theorem applies_act (eventName : String) (x : Enrichment) (data : Payload) :
    x.applies eventName (x.act eventName data) = x.applies eventName data := by
  unfold act
  split
  · cases x with
    | agent | deviceName | restriction | integers => rfl
    | failure =>
      have hknown : ReadsOnly ["business_error"] isBusinessError :=
        readsOnly_isBusinessError (by decide)
      rw [run, addCategory, applies, applies, hknown data "error_type" _ (by decide)]
    | mediaUrn => rw [run, applies, applies, mediaString?_addUrn (by decide)]
    | origin =>
      rw [run, applies, applies, addOrigin_eq]
      cases hpage : mediaString? "origin" data with
      | none => simp only [hpage, Option.elim_none]
      | some page =>
        have hkept := mediaString?_writeOrigin (show "origin" ≠ "short_origin" by decide) page data
        simp only [hpage, Option.elim_some, hkept]
  · rfl

theorem idempotent_act (eventName : String) (x : Enrichment) : Idempotent (act eventName x) := by
  intro data
  by_cases h : x.applies eventName data = true
  · have hdata : act eventName x data = x.run data := if_pos h
    have hagain := applies_act eventName x data
    rw [hdata] at hagain ⊢
    rw [act, hagain, if_pos h, idempotent_run x data]
  · have hdata : act eventName x data = data := if_neg h
    rw [hdata, hdata]

end Single

section Dependent

variable {eventName : String}

/-- What the browser tells of the device takes the place of the name of its model. -/
theorem writeAgent_addDeviceName (agent : Agent) (data : Payload) :
    writeAgent agent (addDeviceName data) = writeAgent agent data := by
  have hbrowser : Touches ["browser"] (Members.onObject "browser"
      (describe ("name", agent.name) ("version", agent.version))) := .onObject (by decide) _
  have hdevice : Touches ["device"] (Members.onObject "device" nameDevice) :=
    .onObject (by decide) _
  have hdescribe (device : Payload) :
      describe ("model", agent.deviceName) ("type", agent.deviceKind) (nameDevice device) =
        describe ("model", agent.deviceName) ("type", agent.deviceKind) device := by
    unfold nameDevice describe
    cases modelName? device with
    | none => rfl
    | some name => rw [Option.elim_some, Members.insert_insert_self]
  simp only [writeAgent, Function.comp_apply, addDeviceName_eq]
  rw [(hbrowser.commute hdevice (by decide)).eq, Members.inObject_onObject hdescribe]

/-- An agent that is analysed again is written anew, or there is none. -/
theorem act_agent_act_deviceName (data : Payload) :
    act eventName .agent (act eventName .deviceName data) = act eventName .agent data ∨
      act eventName .agent data = data ∧
        act eventName .agent (act eventName .deviceName data) = act eventName .deviceName data := by
  have hreads : ReadsOnly ["browser"] agentText? := readsOnly_agentText? (by decide)
  have htext : agentText? (addDeviceName data) = agentText? data :=
    hreads.read_eq (touches_run (x := .deviceName) (by decide)) (by decide) data
  by_cases hstart : eventName = Event.startName
  · have hagent : act eventName .agent = addAgent := act_eq_run fun ms => by simp [applies, hstart]
    have hdevice : act eventName .deviceName = addDeviceName :=
      act_eq_run fun ms => by simp [applies, hstart]
    rw [hagent, hdevice, addAgent_eq]
    simp only [htext]
    cases agentText? data with
    | none => exact Or.inr ⟨rfl, rfl⟩
    | some text => exact Or.inl (writeAgent_addDeviceName _ data)
  · have hidle : act eventName .agent = id := act_eq_id fun ms => by simp [applies, hstart]
    rw [hidle]
    exact Or.inr ⟨rfl, rfl⟩

private theorem idempotent_agent_deviceName (eventName : String) :
    Idempotent (actAll eventName [.agent, .deviceName]) := by
  intro data
  simp only [actAll, List.foldl_cons, List.foldl_nil]
  -- The device is told anew and then named anew, or there was nothing to tell at all.
  rcases act_agent_act_deviceName (act eventName .agent data) with h | ⟨-, h⟩
  · rw [h, idempotent_act]
  · rw [h, idempotent_act]

/-- A failure is sorted by what a restriction leaves alone. -/
theorem idempotent_restriction_failure (eventName : String) :
    Idempotent (actAll eventName [.restriction, .failure]) := by
  intro data
  simp only [actAll, List.foldl_cons, List.foldl_nil]
  generalize hrestricted : act eventName .restriction data = restricted
  have hkept : act eventName .restriction restricted = restricted := by
    rw [← hrestricted, idempotent_act]
  have hagain : act eventName .restriction (act eventName .failure restricted) =
      act eventName .failure restricted := by
    rcases act_eq_or eventName .failure restricted with h | h
    · rw [h, run, addCategory, (touches_act eventName (by decide)).insert_comm (by decide), hkept]
    · rw [h, hkept]
  rw [hagain, idempotent_act]

end Dependent

section Pipeline

variable {eventName : String} {xs ys : List Enrichment}

theorem commute_act_actAll {x : Enrichment} (h : ∀ y ∈ ys, ¬Precedes x y ∧ ¬Precedes y x) :
    Function.Commute (act eventName x) (actAll eventName ys) := by
  induction ys with
  | nil => exact .id_right
  | cons y ys ih =>
    obtain ⟨hy, hrest⟩ := List.forall_mem_cons.1 h
    exact (ih hrest).comp_right (commute_act hy.1 hy.2 eventName)

theorem commute_actAll (h : ∀ x ∈ xs, ∀ y ∈ ys, ¬Precedes x y ∧ ¬Precedes y x) :
    Function.Commute (actAll eventName xs) (actAll eventName ys) := by
  induction xs with
  | nil => exact .id_left
  | cons x xs ih =>
    obtain ⟨hx, hrest⟩ := List.forall_mem_cons.1 h
    exact (ih hrest).comp_left (commute_act_actAll hx)

theorem idempotent_append (hxs : Idempotent (actAll eventName xs))
    (hys : Idempotent (actAll eventName ys))
    (h : ∀ x ∈ xs, ∀ y ∈ ys, ¬Precedes x y ∧ ¬Precedes y x) :
    Idempotent (actAll eventName (xs ++ ys)) := by
  have happend : actAll eventName (xs ++ ys) = actAll eventName ys ∘ actAll eventName xs :=
    funext fun data => List.foldl_append
  rw [happend]
  exact hys.comp hxs (commute_actAll h).symm

/-- The two pairs that depend on each other are idempotent as pairs; all else may be run in any
order. -/
theorem idempotent_actAll_all (eventName : String) : Idempotent (actAll eventName all) := by
  have hsingle (x : Enrichment) : Idempotent (actAll eventName [x]) := idempotent_act eventName x
  have hmedia := idempotent_append (hsingle .mediaUrn) (hsingle .origin) (by decide)
  have hdependent := idempotent_append (idempotent_agent_deviceName eventName)
    (idempotent_restriction_failure eventName) (by decide)
  exact idempotent_append hdependent (idempotent_append hmedia (hsingle .integers) (by decide))
    (by decide)

end Pipeline

end Enrichment

namespace Event

theorem enrich_enrich (e : Event) : e.enrich.enrich = e.enrich := by
  rw [enrich, enrich, Enrichment.enrichWith_eq, Enrichment.enrichWith_eq]
  exact congrArg (fun data => { e with data := data })
    (Enrichment.idempotent_actAll_all e.name e.data)

end Event
end PlaybackRelay

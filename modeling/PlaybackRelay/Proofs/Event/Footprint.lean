import PlaybackRelay.Event.Enrichment
import PlaybackRelay.Proofs.Json.Clamp

/-!
Which members of a payload an enrichment reads and writes. Two enrichments that have none in common
may be run in either order, and so may the two that describe the medium, as they write different
members of it. Main statement: `commute_act`.
-/
namespace PlaybackRelay.Enrichment

open Json (clampMembers Members)
open Json.Members (ReadsOnly Touches Steady)

/-- What an enrichment makes of the payload of an event. -/
def act (eventName : String) (enrichment : Enrichment) (data : Payload) : Payload :=
  if enrichment.applies eventName data then enrichment.run data else data

theorem step_eq (e : Event) (enrichment : Enrichment) :
    enrichment.step e = { e with data := enrichment.act e.name e.data } := by
  unfold step act
  split <;> rfl

/-- What several enrichments, one after the other, make of the payload. -/
def actAll (eventName : String) (order : List Enrichment) (data : Payload) : Payload :=
  order.foldl (fun data x => x.act eventName data) data

theorem enrichWith_eq (e : Event) (order : List Enrichment) :
    e.enrichWith order = { e with data := actAll e.name order e.data } := by
  induction order generalizing e with
  | nil => rfl
  | cons x order ih =>
    rw [Event.enrichWith, List.foldl_cons, step_eq]
    exact ih _

theorem act_eq_or (eventName : String) (x : Enrichment) (data : Payload) :
    act eventName x data = x.run data ∨ act eventName x data = data := by
  unfold act
  split
  · exact Or.inl rfl
  · exact Or.inr rfl

theorem act_eq_run {eventName : String} {x : Enrichment}
    (h : ∀ data, x.applies eventName data = true) : act eventName x = x.run := by
  funext data
  simp [act, h]

theorem act_eq_id {eventName : String} {x : Enrichment}
    (h : ∀ data, x.applies eventName data = false) : act eventName x = id := by
  funext data
  simp [act, h]

/-- The members that an enrichment reads or writes. Bringing integers into range concerns all of
them and has no footprint. -/
def footprint : Enrichment → List String
  | .agent => ["browser", "device", "os", "robot"]
  | .deviceName => ["device"]
  | .restriction => ["message", "block_reason", "business_error"]
  | .failure => ["business_error", "log", "name", "error_type"]
  | .mediaUrn => ["media"]
  | .origin => ["media", "embed"]
  | .integers => []

/-- The text that the browser sent. -/
def agentText? (data : Payload) : Option String :=
  (data.object? "browser").bind (·.string? "user_agent")

def writeAgent (agent : Agent) : Payload → Payload :=
  Members.insert "robot" (.bool agent.isSuspect) ∘
    Members.inObject "os" (describe ("name", agent.systemName) ("version", agent.systemVersion)) ∘
    Members.inObject "device" (describe ("model", agent.deviceName) ("type", agent.deviceKind)) ∘
    Members.onObject "browser" (describe ("name", agent.name) ("version", agent.version))

theorem addAgent_eq : addAgent = fun data =>
    (agentText? data).elim data fun text => writeAgent (Agent.ofText text.toList) data := by
  funext data
  unfold addAgent agentText?
  cases (data.object? "browser").bind (·.string? "user_agent") <;> rfl

/-- The name of the model that a device reports. -/
def modelName? (device : Payload) : Option String :=
  (device.string? "model").bind fun model => Device.modelName? model.toList

def nameDevice (device : Payload) : Payload :=
  (modelName? device).elim device fun name => device.insert "model" (.string name)

theorem addDeviceName_eq : addDeviceName = Members.onObject "device" nameDevice := by
  funext data
  refine congrArg (data.onObject "device") (funext fun device => ?_)
  unfold nameDevice modelName?
  cases (device.string? "model").bind fun model => Device.modelName? model.toList <;> rfl

def restriction? (data : Payload) : Option Failure.Restriction :=
  (data.string? "message").bind Failure.Restriction.ofMessage?

def writeRestriction : Option Failure.Restriction → Payload → Payload
  | some reason =>
    Members.insert "business_error" (.bool true) ∘
      Members.insert "block_reason" (.string reason.code)
  | none => Members.insert "business_error" (.bool false)

theorem addRestriction_eq :
    addRestriction = fun data => writeRestriction (restriction? data) data := by
  funext data
  unfold addRestriction restriction?
  cases (data.string? "message").bind Failure.Restriction.ofMessage? <;> rfl

def writeUrn (id : String) : Payload → Payload :=
  insertSome "swisstxt" (if Media.Urn.isTextService id.toList then some (.bool true) else none) ∘
    insertSome "type" ((Media.Urn.kind? id.toList).map .string) ∘
    insertSome "bu" ((Media.Urn.broadcaster? id.toList).map .string)

def readUrn (media : Payload) : Payload :=
  (media.string? "id").elim media (writeUrn · media)

theorem addUrn_eq : addUrn = Members.onObject "media" readUrn := by
  funext data
  refine congrArg (data.onObject "media") (funext fun media => ?_)
  unfold readUrn
  cases media.string? "id" <;> rfl

def short? (page : String) : Option Json :=
  (Media.Origin.short? page.toList).map fun short => .string (String.ofList short)

def writeOrigin (page : String) : Payload → Payload :=
  Members.insert "embed" (.bool (Media.Origin.isEmbedded page.toList)) ∘
    Members.onObject "media" (insertSome "short_origin" (short? page))

theorem addOrigin_eq :
    addOrigin = fun data => (mediaString? "origin" data).elim data (writeOrigin · data) := by
  funext data
  unfold addOrigin
  cases mediaString? "origin" data <;> rfl

section Footprints

variable {names : List String} {x y : Enrichment}

theorem touches_insertSome {name : String} (hname : name ∈ names) (value : Option Json) :
    Touches names (insertSome name value) := by
  cases value with
  | none => exact .id
  | some v => exact .insert_const hname v

theorem readsOnly_agentText? (h : "browser" ∈ names) : ReadsOnly names agentText? :=
  (Members.readsOnly_object? h).comp (·.bind (·.string? "user_agent"))

theorem readsOnly_restriction? (h : "message" ∈ names) : ReadsOnly names restriction? :=
  (Members.readsOnly_string? h).comp (·.bind Failure.Restriction.ofMessage?)

theorem readsOnly_mediaString? (h : "media" ∈ names) (name : String) :
    ReadsOnly names (mediaString? name) :=
  (Members.readsOnly_object? h).comp (·.bind (·.string? name))

theorem readsOnly_isBusinessError (h : "business_error" ∈ names) :
    ReadsOnly names isBusinessError :=
  (Members.readsOnly_get? h).comp fun value => decide (value.bind Json.bool? = some true)

theorem readsOnly_category (hlog : "log" ∈ names) (hname : "name" ∈ names) :
    ReadsOnly names category := by
  intro ms name value hother
  rw [category, category, Members.readsOnly_string? hlog ms name value hother,
    Members.readsOnly_string? hname ms name value hother]

theorem readsOnly_applies (x : Enrichment) (eventName : String) :
    ReadsOnly x.footprint fun data => x.applies eventName data := by
  cases x with
  | agent | deviceName | restriction | integers => exact fun _ _ _ _ => rfl
  | failure =>
    exact (readsOnly_isBusinessError (by decide)).comp
      fun known => eventName = Event.errorName && !known
  | mediaUrn =>
    exact (readsOnly_mediaString? (by decide) "id").comp
      fun id => eventName = Event.startName && id.isSome
  | origin =>
    exact (readsOnly_mediaString? (by decide) "origin").comp
      fun page => eventName = Event.startName && page.isSome

private theorem touches_writeAgent (agent : Agent) :
    Touches (footprint .agent) (writeAgent agent) := by
  refine .comp (.insert_const ?_ _) (.comp (.inObject ?_ _) (.comp (.inObject ?_ _)
    (.onObject ?_ _))) <;> decide

theorem touches_writeRestriction (reason : Option Failure.Restriction) :
    Touches ["block_reason", "business_error"] (writeRestriction reason) := by
  cases reason with
  | none => exact .insert_const (by decide) _
  | some reason =>
    rw [writeRestriction]
    refine .comp (.insert_const ?_ _) (.insert_const ?_ _) <;> decide

theorem touches_writeUrn (id : String) : Touches ["bu", "type", "swisstxt"] (writeUrn id) := by
  refine .comp (touches_insertSome ?_ _) (.comp (touches_insertSome ?_ _)
    (touches_insertSome ?_ _)) <;> decide

private theorem touches_writeOrigin (page : String) :
    Touches (footprint .origin) (writeOrigin page) := by
  refine .comp (.insert_const ?_ _) (.onObject ?_ _) <;> decide

theorem touches_run (hx : x ≠ .integers) : Touches x.footprint x.run := by
  cases x with
  | agent =>
    rw [run, addAgent_eq]
    exact .ofSome (readsOnly_agentText? (by decide)) fun text => touches_writeAgent _
  | deviceName =>
    rw [run, addDeviceName_eq]
    exact .onObject (by decide) _
  | restriction =>
    rw [run, addRestriction_eq]
    exact .ofRead (readsOnly_restriction? (by decide)) fun reason =>
      (touches_writeRestriction reason).mono (by decide)
  | failure =>
    have hcategory : ReadsOnly (footprint .failure) category :=
      readsOnly_category (by decide) (by decide)
    exact .insert (by decide) (hcategory.comp fun c => Json.string c.code)
  | mediaUrn =>
    rw [run, addUrn_eq]
    exact .onObject (by decide) _
  | origin =>
    rw [run, addOrigin_eq]
    exact .ofSome (readsOnly_mediaString? (by decide) "origin") touches_writeOrigin
  | integers => contradiction

theorem touches_act (eventName : String) (hx : x ≠ .integers) :
    Touches x.footprint (act eventName x) := by
  -- Whether the enrichment is meant for the event is read from its footprint, too.
  have hrun (b : Bool) : Touches x.footprint fun data => if b then x.run data else data := by
    cases b with
    | false => exact .id
    | true => exact touches_run hx
  have h := Touches.ofRead (readsOnly_applies x eventName) hrun
  exact h

end Footprints

section Integers

theorem clamp_told (value : String) : (told value).clamp = told value := by
  unfold told
  split <;> rfl

theorem agentText?_clampMembers (data : Payload) :
    agentText? (clampMembers data) = agentText? data := by
  rw [agentText?, agentText?, Members.object?_clampMembers]
  cases Members.object? "browser" data <;> simp

theorem mediaString?_clampMembers (data : Payload) (name : String) :
    mediaString? name (clampMembers data) = mediaString? name data := by
  rw [mediaString?, mediaString?, Members.object?_clampMembers]
  cases Members.object? "media" data <;> simp

theorem isBusinessError_clampMembers (data : Payload) :
    isBusinessError (clampMembers data) = isBusinessError data := by
  rw [isBusinessError, isBusinessError, Members.get?_clampMembers]
  cases Members.get? "business_error" data <;> simp

theorem restriction?_clampMembers (data : Payload) :
    restriction? (clampMembers data) = restriction? data := by
  rw [restriction?, Members.string?_clampMembers, restriction?]

theorem category_clampMembers (data : Payload) : category (clampMembers data) = category data := by
  rw [category, Members.string?_clampMembers, Members.string?_clampMembers, category]

theorem applies_clampMembers (eventName : String) (data : Payload) (x : Enrichment) :
    x.applies eventName (clampMembers data) = x.applies eventName data := by
  cases x with
  | agent | deviceName | restriction | integers => rfl
  | failure => simp only [applies, isBusinessError_clampMembers]
  | mediaUrn | origin => simp only [applies, mediaString?_clampMembers]

theorem steady_describe (name version : String × String) : Steady (describe name version) :=
  .comp (.insert (clamp_told _) _) (.insert (clamp_told _) _)

theorem steady_insertSome (name : String) {value : Option Json} (h : ∀ v ∈ value, v.clamp = v) :
    Steady (insertSome name value) := by
  cases value with
  | none => exact .id
  | some v => exact .insert (h v rfl) name

theorem clamp_of_map_string {α : Type} (o : Option α) (text : α → String) :
    ∀ v ∈ o.map fun a => Json.string (text a), v.clamp = v := by
  intro v hv
  obtain ⟨a, -, rfl⟩ := Option.map_eq_some_iff.1 hv
  rfl

private theorem steady_writeAgent (agent : Agent) : Steady (writeAgent agent) :=
  .comp (.insert rfl _) (.comp (.inObject (steady_describe _ _) _)
    (.comp (.inObject (steady_describe _ _) _) (.onObject (steady_describe _ _) _)))

private theorem steady_writeRestriction (reason : Option Failure.Restriction) :
    Steady (writeRestriction reason) := by
  cases reason with
  | none => exact .insert rfl _
  | some reason =>
    rw [writeRestriction]
    exact .comp (.insert rfl _) (.insert rfl _)

private theorem steady_writeUrn (id : String) : Steady (writeUrn id) := by
  refine .comp (steady_insertSome _ fun v hv => ?_)
    (.comp (steady_insertSome _ (clamp_of_map_string _ _))
      (steady_insertSome _ (clamp_of_map_string _ _)))
  split at hv
  · obtain rfl := Option.some.inj hv
    rfl
  · contradiction

private theorem steady_writeOrigin (page : String) : Steady (writeOrigin page) :=
  .comp (.insert rfl _) (.onObject (steady_insertSome _ (clamp_of_map_string _ _)) _)

/-- No enrichment reads a number that it could find changed, and none writes one. -/
theorem steady_run (x : Enrichment) : Steady x.run := by
  cases x with
  | agent =>
    rw [run, addAgent_eq]
    exact Members.commute_ofSome agentText?_clampMembers fun text => steady_writeAgent _
  | deviceName =>
    rw [run, addDeviceName_eq]
    refine .onObject (Members.commute_ofSome (fun device => ?_) fun name => Steady.insert rfl _) _
    rw [modelName?, Members.string?_clampMembers, modelName?]
  | restriction =>
    rw [run, addRestriction_eq]
    exact Members.commute_ofRead restriction?_clampMembers steady_writeRestriction
  | failure =>
    have hinsert (c : Failure.Category) : Steady (Members.insert "error_type" (.string c.code)) :=
      .insert rfl _
    have h := Members.commute_ofRead category_clampMembers hinsert
    exact h
  | mediaUrn =>
    rw [run, addUrn_eq]
    refine .onObject (Members.commute_ofSome (fun media => ?_) steady_writeUrn) _
    exact Members.string?_clampMembers media _
  | origin =>
    rw [run, addOrigin_eq]
    exact Members.commute_ofSome (fun data => mediaString?_clampMembers data _) steady_writeOrigin
  | integers => exact .refl _

theorem steady_act (eventName : String) (x : Enrichment) : Steady (act eventName x) := by
  intro data
  unfold act
  rw [applies_clampMembers]
  split
  · exact (steady_run x).eq data
  · rfl

end Integers

section Media

private theorem act_start_mediaUrn : act Event.startName .mediaUrn = fun data =>
    (mediaString? "id" data).elim data fun _ => addUrn data := by
  funext data
  simp only [act, applies, run, decide_true, Bool.true_and]
  cases mediaString? "id" data <;> rfl

private theorem act_start_origin : act Event.startName .origin = fun data =>
    (mediaString? "origin" data).elim data (writeOrigin · data) := by
  funext data
  simp only [act, applies, run, decide_true, Bool.true_and, addOrigin_eq]
  cases mediaString? "origin" data <;> rfl

private theorem string?_insertSome_of_ne {name other : String} (h : other ≠ name)
    (value : Option Json) (ms : Payload) :
    Members.string? other (insertSome name value ms) = ms.string? other := by
  cases value with
  | none => rfl
  | some v => exact Members.string?_insert_of_ne h ms v

private theorem touches_readUrn : Touches ["id", "bu", "type", "swisstxt"] readUrn :=
  .ofSome (Members.readsOnly_string? (by decide)) fun id => (touches_writeUrn id).mono (by decide)

theorem string?_writeUrn {name : String} (h : name ∉ ["bu", "type", "swisstxt"]) (id : String)
    (media : Payload) : Members.string? name (writeUrn id media) = media.string? name := by
  have hreads : ReadsOnly [name] (Members.string? name) :=
    Members.readsOnly_string? List.mem_cons_self
  refine hreads.read_eq (touches_writeUrn id) (fun other hother hmem => ?_) media
  obtain rfl := List.mem_singleton.1 hmem
  exact h hother

private theorem string?_readUrn {name : String} (h : name ∉ ["bu", "type", "swisstxt"])
    (media : Payload) : Members.string? name (readUrn media) = media.string? name := by
  unfold readUrn
  cases media.string? "id" with
  | none => rfl
  | some id => exact string?_writeUrn h id media

theorem mediaString?_addUrn {name : String} (h : name ∉ ["bu", "type", "swisstxt"])
    (data : Payload) : mediaString? name (addUrn data) = mediaString? name data := by
  rw [mediaString?, addUrn_eq, Members.object?_onObject_self, Option.bind_map, mediaString?]
  refine Option.bind_congr fun media _ => ?_
  exact string?_readUrn h media

theorem mediaString?_writeOrigin {name : String} (h : name ≠ "short_origin") (page : String)
    (data : Payload) : mediaString? name (writeOrigin page data) = mediaString? name data := by
  rw [mediaString?, writeOrigin, Function.comp_apply, Members.object?_insert_of_ne (by decide),
    Members.object?_onObject_self, Option.bind_map, mediaString?]
  refine Option.bind_congr fun media _ => ?_
  exact string?_insertSome_of_ne h _ media

/-- The one describes the medium by its identifier, the other one by its page. -/
theorem commute_addUrn_writeOrigin (page : String) :
    Function.Commute addUrn (writeOrigin page) := by
  have hshort : Touches ["short_origin"] (insertSome "short_origin" (short? page)) :=
    touches_insertSome (by decide) _
  have hinner : Function.Commute readUrn (insertSome "short_origin" (short? page)) :=
    touches_readUrn.commute hshort (by decide)
  have hmedia : Function.Commute addUrn
      (Members.onObject "media" (insertSome "short_origin" (short? page))) := by
    intro data
    rw [addUrn_eq, Members.onObject_onObject, Members.onObject_onObject, hinner.comp_eq]
  have hembed : Function.Commute addUrn
      (Members.insert "embed" (.bool (Media.Origin.isEmbedded page.toList))) := by
    intro data
    exact (touches_run (by decide : Enrichment.mediaUrn ≠ .integers)).insert_comm (by decide) _ _
  exact hembed.comp_right hmedia

theorem commute_media (eventName : String) :
    Function.Commute (act eventName .mediaUrn) (act eventName .origin) := by
  by_cases hstart : eventName = Event.startName
  · rw [hstart, act_start_mediaUrn, act_start_origin]
    refine Members.commute_ofSome (fun data => ?_) fun _ => ?_
    · cases mediaString? "origin" data with
      | none => rfl
      | some page => exact mediaString?_writeOrigin (by decide) page data
    · refine (Members.commute_ofSome (fun data => ?_) fun page => ?_).symm
      · exact mediaString?_addUrn (by decide) data
      · exact (commute_addUrn_writeOrigin page).symm
  · -- Neither is meant for any other event.
    rw [act_eq_id (x := .mediaUrn) fun data => by simp [applies, hstart]]
    exact .id_left

end Media

section Order

variable {x y : Enrichment}

/-- The pairs of which the second enrichment reads what the first one writes. -/
def dependent : List (Enrichment × Enrichment) :=
  [(.agent, .deviceName), (.restriction, .failure)]

def Precedes (x y : Enrichment) : Prop := (x, y) ∈ dependent

instance (x y : Enrichment) : Decidable (Precedes x y) :=
  inferInstanceAs (Decidable ((x, y) ∈ dependent))

theorem precedes_iff :
    Precedes x y ↔ x = .agent ∧ y = .deviceName ∨ x = .restriction ∧ y = .failure := by
  simp [Precedes, dependent]

/-- Of the pairs with a member in common only the one about the medium may be run in either
order. -/
theorem eq_or_media (hxy : ¬Precedes x y) (hyx : ¬Precedes y x)
    (hshared : ¬∀ name ∈ x.footprint, name ∉ y.footprint) :
    x = y ∨ x = .mediaUrn ∧ y = .origin ∨ x = .origin ∧ y = .mediaUrn := by
  cases x <;> cases y <;> simp_all [footprint, Precedes, dependent]

theorem commute_act (hxy : ¬Precedes x y) (hyx : ¬Precedes y x) (eventName : String) :
    Function.Commute (act eventName x) (act eventName y) := by
  by_cases hx : x = .integers
  · subst hx
    exact (steady_act eventName y).symm
  by_cases hy : y = .integers
  · subst hy
    exact steady_act eventName x
  by_cases hapart : ∀ name ∈ x.footprint, name ∉ y.footprint
  · exact (touches_act eventName hx).commute (touches_act eventName hy) hapart
  rcases eq_or_media hxy hyx hapart with rfl | ⟨rfl, rfl⟩ | ⟨rfl, rfl⟩
  · exact .refl _
  · exact commute_media eventName
  · exact (commute_media eventName).symm

end Order

end PlaybackRelay.Enrichment

import PlaybackRelay.Proofs.Event.Receive
import PlaybackRelay.Proofs.Json.Clamp
import PlaybackRelay.Proofs.Json.WellFormed

/-!
The payload of an event stays well formed, whatever enrichments it goes through: they insert names
that are not reserved. Main statement: `WellFormed.enrichWith`.
-/
namespace PlaybackRelay

namespace Json

namespace Members

variable {ms : Members} {name : String}

theorem mem_of_get?_eq_some {value : Json} (h : ms.get? name = some value) :
    (name, value) ∈ ms := by
  induction ms with
  | nil => contradiction
  | cons m ms ih =>
    obtain ⟨k, v⟩ := m
    rw [get?] at h
    split at h
    · rename_i hk
      obtain rfl := Option.some.inj h
      exact hk ▸ List.mem_cons_self
    · exact List.mem_cons_of_mem _ (ih h)

/-- The change leaves an object well formed. -/
def Keeps (change : Members → Members) : Prop :=
  ∀ {ms : Members}, (object ms).WellFormed → (object (change ms)).WellFormed

theorem keeps_id : Keeps id := fun h => h

/-- A name that is not reserved may be inserted into any object. -/
theorem keeps_insert (hname : Wrapped.ofName? name = none) {value : Json}
    (hvalue : value.WellFormed) : Keeps (insert name value) := by
  intro ms h
  have hms := (WellFormed.of_object h).1
  exact (hms.insert name hvalue).object (Genuine.insert hname ms value)

theorem Keeps.comp {change later : Members → Members} (hlater : Keeps later)
    (hchange : Keeps change) : Keeps (later ∘ change) := fun h => hlater (hchange h)

theorem WellFormed.object_of_object? (h : ms.WellFormed) {inner : Members}
    (hinner : ms.object? name = some inner) : (Json.object inner).WellFormed := by
  obtain ⟨value, hget, hmembers⟩ := Option.bind_eq_some_iff.1 hinner
  cases value with
  | object members =>
    obtain rfl := Option.some.inj hmembers
    exact h.values _ (mem_of_get?_eq_some hget)
  | _ => contradiction

theorem WellFormed.onObject (h : ms.WellFormed) {change : Members → Members}
    (hchange : Keeps change) : (ms.onObject name change).WellFormed := by
  unfold Members.onObject
  split
  · rename_i inner hinner
    exact h.insert name (hchange (h.object_of_object? hinner))
  · exact h

theorem WellFormed.inObject (h : ms.WellFormed) {change : Members → Members}
    (hchange : Keeps change) : (ms.inObject name change).WellFormed := by
  have hinner : (Json.object ((ms.object? name).getD [])).WellFormed := by
    cases hobject : ms.object? name with
    | none => exact WellFormed.nil.object (Or.inl rfl)
    | some inner => exact h.object_of_object? hobject
  exact h.insert name (hchange hinner)

end Members

namespace Members

variable {ms : Members}

theorem Ordered.clampMembers (h : ms.Ordered) : Ordered (clampMembers ms) := by
  rw [clampMembers_eq_map]
  exact List.pairwise_map.2 h

theorem Genuine.clampMembers (h : ms.Genuine) : Genuine (clampMembers ms) := by
  rw [clampMembers_eq_map]
  rcases h with rfl | ⟨m, hm, hname⟩
  · exact Or.inl rfl
  · exact .of_mem (List.mem_map_of_mem hm) hname

end Members

theorem WellFormed.clamp {v : Json} (h : v.WellFormed) : v.clamp.WellFormed := by
  induction h with
  | null => exact .null
  | bool b => exact .bool b
  | number n => exact .number n.clamp
  | string s => exact .string s
  | array _ ih =>
    rw [Json.clamp, clampItems_eq_map]
    exact .array (List.forall_mem_map.2 ih)
  | object hordered hgenuine _ ih =>
    rw [Json.clamp]
    refine .object hordered.clampMembers hgenuine.clampMembers ?_
    rw [clampMembers_eq_map]
    exact List.forall_mem_map.2 ih

theorem Members.WellFormed.clampMembers {ms : Members} (h : ms.WellFormed) :
    WellFormed (clampMembers ms) := by
  refine ⟨h.ordered.clampMembers, ?_⟩
  rw [clampMembers_eq_map]
  exact List.forall_mem_map.2 fun m hm => (h.values m hm).clamp

end Json

namespace Enrichment

open Json (Wrapped)
open Json.Members (Keeps keeps_id keeps_insert)

theorem told_wellFormed (value : String) : (told value).WellFormed := by
  unfold told
  split
  · exact .null
  · exact .string value

theorem keeps_describe {name version : String × String} (hname : Wrapped.ofName? name.1 = none)
    (hversion : Wrapped.ofName? version.1 = none) : Keeps (describe name version) :=
  (keeps_insert hversion (told_wellFormed _)).comp (keeps_insert hname (told_wellFormed _))

theorem keeps_insertSome {name : String} (hname : Wrapped.ofName? name = none)
    {value : Option Json} (hvalue : ∀ v ∈ value, v.WellFormed) : Keeps (insertSome name value) := by
  cases value with
  | none => exact keeps_id
  | some v => exact keeps_insert hname (hvalue v rfl)

theorem strings_wellFormed (o : Option String) : ∀ v ∈ o.map Json.string, v.WellFormed := by
  intro v hv
  obtain ⟨s, -, rfl⟩ := Option.map_eq_some_iff.1 hv
  exact .string s

variable {data : Payload}

private theorem addAgent_wellFormed (h : data.WellFormed) : (addAgent data).WellFormed := by
  unfold addAgent
  split
  · exact h
  · refine .insert (.inObject (.inObject (.onObject h ?_) ?_) ?_) "robot" (.bool _)
    · exact keeps_describe rfl rfl
    · exact keeps_describe rfl rfl
    · exact keeps_describe rfl rfl

private theorem addDeviceName_wellFormed (h : data.WellFormed) :
    (addDeviceName data).WellFormed := by
  refine h.onObject fun {device} hdevice => ?_
  split
  · exact keeps_insert rfl (.string _) hdevice
  · exact hdevice

private theorem addRestriction_wellFormed (h : data.WellFormed) :
    (addRestriction data).WellFormed := by
  unfold addRestriction
  split
  · exact (h.insert _ (.string _)).insert _ (.bool true)
  · exact h.insert _ (.bool false)

private theorem addUrn_wellFormed (h : data.WellFormed) : (addUrn data).WellFormed := by
  refine h.onObject fun {media} hmedia => ?_
  split
  · exact hmedia
  · refine keeps_insertSome rfl (fun v hv => ?_) ?_
    · split at hv
      · obtain rfl := Option.some.inj hv
        exact .bool true
      · contradiction
    · refine keeps_insertSome rfl (strings_wellFormed _) ?_
      exact keeps_insertSome rfl (strings_wellFormed _) hmedia

private theorem addOrigin_wellFormed (h : data.WellFormed) : (addOrigin data).WellFormed := by
  unfold addOrigin
  split
  · exact h
  · refine .insert (h.onObject (keeps_insertSome rfl fun v hv => ?_)) _ (.bool _)
    obtain ⟨short, -, rfl⟩ := Option.map_eq_some_iff.1 hv
    exact .string _

theorem run_wellFormed (enrichment : Enrichment) (h : data.WellFormed) :
    (enrichment.run data).WellFormed := by
  cases enrichment with
  | agent => exact addAgent_wellFormed h
  | deviceName => exact addDeviceName_wellFormed h
  | restriction => exact addRestriction_wellFormed h
  | failure => exact h.insert _ (.string _)
  | mediaUrn => exact addUrn_wellFormed h
  | origin => exact addOrigin_wellFormed h
  | integers => exact h.clampMembers

end Enrichment

namespace Event

/-- The event has a session and a name, and its payload is well formed. -/
structure WellFormed (e : Event) : Prop where
  sessionId : e.sessionId.isEmpty = false
  name : e.name.isEmpty = false
  data : e.data.WellFormed

private theorem keeps_data : shape.Keeps fun d => ∀ data ∈ d.data, data.WellFormed := by
  intro depth d d' f cs rest hd h
  cases f with
  | data =>
    obtain ⟨⟨data, _⟩, hread, heq⟩ := Json.map_eq_ok.1 h
    obtain ⟨rfl, -⟩ := Prod.mk.inj heq
    simpa using Json.Members.WellFormed.of_readObject hread
  | _ =>
    obtain ⟨_, -, heq⟩ := Json.map_eq_ok.1 h
    obtain ⟨rfl, -⟩ := Prod.mk.inj heq
    exact hd

theorem Draft.data_of_finish {d : Draft} {e : Event} (h : d.finish = some e) :
    d.data = some e.data := by
  simp only [Draft.finish, Option.bind_eq_bind, Option.bind_eq_some_iff, Option.pure_def,
    Option.some.injEq] at h
  obtain ⟨_, -, _, -, _, -, _, -, _, hdata, rfl⟩ := h
  exact hdata

theorem wellFormed_of_decode {message : String} {e : Event} (h : decode message = .ok e) :
    e.WellFormed := by
  have hempty : ∀ data ∈ Draft.empty.data, data.WellFormed := by simp [Draft.empty]
  obtain ⟨hsession, hname, d, hdata, hfinish⟩ := exists_finish_of_decode keeps_data hempty h
  exact ⟨hsession, hname, hdata e.data (Draft.data_of_finish hfinish)⟩

theorem WellFormed.step {e : Event} (h : e.WellFormed) (enrichment : Enrichment) :
    (enrichment.step e).WellFormed := by
  unfold Enrichment.step
  split
  · exact ⟨h.sessionId, h.name, Enrichment.run_wellFormed enrichment h.data⟩
  · exact h

theorem WellFormed.enrichWith {e : Event} (h : e.WellFormed) (enrichments : List Enrichment) :
    (e.enrichWith enrichments).WellFormed := by
  induction enrichments generalizing e with
  | nil => exact h
  | cons enrichment enrichments ih => exact ih (h.step enrichment)

end Event
end PlaybackRelay

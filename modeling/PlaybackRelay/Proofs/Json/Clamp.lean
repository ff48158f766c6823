import PlaybackRelay.Payload.Integers
import PlaybackRelay.Proofs.Json.Changes
import PlaybackRelay.Proofs.Json.Integer

/-!
Integers brought into range. Doing so twice changes nothing more, and it may be done before or after
any change of a payload that reads no number and writes none. Main statements: `clamp_clamp` and
`clampMembers_insert`.
-/
namespace PlaybackRelay.Json

theorem Number.bound?_bound {n bound : Number} (h : n.bound? = some bound) :
    bound.bound? = none := by
  unfold bound? at h
  split at h
  · split at h
    · obtain rfl := Option.some.inj h
      rfl
    · split at h
      · obtain rfl := Option.some.inj h
        rfl
      · contradiction
  · contradiction

@[simp] theorem Number.clamp_clamp (n : Number) : n.clamp.clamp = n.clamp := by
  cases h : n.bound? with
  | none => simp [clamp, h]
  | some bound => simp [clamp, h, bound?_bound h]

theorem clampItems_eq_map (items : List Json) : clampItems items = items.map clamp := by
  induction items with
  | nil => rfl
  | cons v items ih => rw [clampItems, ih, List.map_cons]

theorem clampMembers_eq_map (ms : Members) :
    clampMembers ms = ms.map fun m => (m.1, m.2.clamp) := by
  induction ms with
  | nil => rfl
  | cons m ms ih => rw [clampMembers, ih, List.map_cons]

@[simp] theorem clamp_clamp (v : Json) : v.clamp.clamp = v.clamp := by
  induction v using inductionOn with
  | null | bool | string => rfl
  | number n => rw [clamp, clamp, n.clamp_clamp]
  | array items ih =>
    rw [clamp, clamp, clampItems_eq_map, clampItems_eq_map, List.map_map]
    exact congrArg array (List.map_congr_left ih)
  | object ms ih =>
    rw [clamp, clamp, clampMembers_eq_map, clampMembers_eq_map, List.map_map]
    exact congrArg object (List.map_congr_left fun m hm => congrArg (Prod.mk m.1) (ih m hm))

@[simp] theorem str?_clamp (v : Json) : v.clamp.str? = v.str? := by
  cases v <;> rfl

@[simp] theorem bool?_clamp (v : Json) : v.clamp.bool? = v.bool? := by
  cases v <;> rfl

theorem members?_clamp (v : Json) : v.clamp.members? = v.members?.map clampMembers := by
  cases v <;> rfl

namespace Members

variable {name : String} {change : Members → Members}

theorem idempotent_clampMembers : Idempotent clampMembers := by
  intro ms
  simp [clampMembers_eq_map]

theorem get?_clampMembers (ms : Members) (name : String) :
    get? name (clampMembers ms) = (ms.get? name).map clamp := by
  fun_induction ms.get? name with
  | case1 => rfl
  | case2 => simp [clampMembers, get?]
  | case3 k v rest hne ih => simp [clampMembers, get?, hne, ih]

@[simp] theorem string?_clampMembers (ms : Members) (name : String) :
    string? name (clampMembers ms) = ms.string? name := by
  rw [string?, string?, get?_clampMembers]
  cases get? name ms <;> simp

theorem object?_clampMembers (ms : Members) (name : String) :
    object? name (clampMembers ms) = (ms.object? name).map clampMembers := by
  rw [object?, object?, get?_clampMembers]
  cases get? name ms <;> simp [members?_clamp]

theorem clampMembers_insert (ms : Members) (name : String) (value : Json) :
    clampMembers (ms.insert name value) = insert name value.clamp (clampMembers ms) := by
  fun_induction ms.insert name value with
  | case1 => rfl
  | case2 => simp [clampMembers, insert]
  | case3 k v rest hne hlt ih => simp [clampMembers, insert, hne, hlt, ih]
  | case4 k v rest hne hlt => simp [clampMembers, insert, hne, hlt]

/-- The change may be made before or after integers are brought into range. -/
def Steady (change : Members → Members) : Prop := Function.Commute change clampMembers

namespace Steady

protected theorem id : Steady id := fun _ => rfl

theorem insert {value : Json} (h : value.clamp = value) (name : String) :
    Steady (Members.insert name value) := by
  intro ms
  rw [clampMembers_insert, h]

theorem comp {later : Members → Members} (hlater : Steady later) (hchange : Steady change) :
    Steady (later ∘ change) := hlater.comp_left hchange

theorem onObject (h : Steady change) (name : String) : Steady (Members.onObject name change) := by
  intro ms
  have hread := object?_clampMembers ms name
  cases hinner : ms.object? name with
  | none =>
    rw [hinner] at hread
    rw [onObject_of_none hinner, onObject_of_none hread]
  | some inner =>
    rw [hinner] at hread
    rw [onObject_of_some hinner, onObject_of_some hread, clampMembers_insert, clamp, h.eq]

theorem inObject (h : Steady change) (name : String) : Steady (Members.inObject name change) := by
  intro ms
  rw [Members.inObject, Members.inObject, clampMembers_insert, clamp, ← h.eq, object?_clampMembers]
  cases ms.object? name <;> rfl

end Steady

end Members

end PlaybackRelay.Json

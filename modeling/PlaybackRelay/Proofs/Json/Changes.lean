import Mathlib.Data.List.Basic
import Mathlib.Data.String.Basic
import Mathlib.Logic.Function.Conjugate
import PlaybackRelay.Json.Basic

/-!
Changes of the members of an object. A change that reads and writes some names only commutes with
one that reads and writes other ones, whatever the order of the members. Main statement:
`Touches.commute`.
-/
namespace PlaybackRelay.Json.Members

@[simp] theorem get?_insert_self (ms : Members) (name : String) (value : Json) :
    (ms.insert name value).get? name = some value := by
  fun_induction ms.insert name value with
  | case1 => simp [get?]
  | case2 => simp [get?]
  | case3 k v rest hne hlt ih => simp [get?, hne, ih]
  | case4 => simp [get?]

theorem get?_insert_of_ne {name other : String} (h : other ≠ name) (ms : Members) (value : Json) :
    (ms.insert name value).get? other = ms.get? other := by
  fun_induction ms.insert name value with
  | case1 => simp [get?, h.symm]
  | case2 v rest => simp [get?, h.symm]
  | case3 k v rest hne hlt ih => simp [get?, ih]
  | case4 => simp [get?, h.symm]

@[simp] theorem insert_insert_self (ms : Members) (name : String) (value later : Json) :
    (ms.insert name value).insert name later = ms.insert name later := by
  fun_induction ms.insert name value with
  | case1 => simp [insert]
  | case2 => simp [insert]
  | case3 k v rest hne hlt ih => simp [insert, hne, hlt, ih]
  | case4 k v rest hne hlt => simp [insert, hne, hlt]

theorem insert_comm {name other : String} (h : name ≠ other) (ms : Members) (value later : Json) :
    (ms.insert name value).insert other later = (ms.insert other later).insert name value := by
  induction ms with
  | nil => rcases lt_or_gt_of_ne h with hlt | hlt <;> simp [insert, hlt, h, h.symm, hlt.not_gt]
  | cons first ms ih =>
    obtain ⟨k, v⟩ := first
    grind [insert]

@[simp] theorem object?_insert_self (ms : Members) (name : String) (inner : Members) :
    (ms.insert name (.object inner)).object? name = some inner := by
  simp [object?, members?]

theorem object?_insert_of_ne {name other : String} (h : other ≠ name) (ms : Members)
    (value : Json) : (ms.insert name value).object? other = ms.object? other := by
  rw [object?, get?_insert_of_ne h, object?]

@[simp] theorem string?_insert_self (ms : Members) (name : String) (s : String) :
    (ms.insert name (.string s)).string? name = some s := by
  simp [string?, str?]

theorem string?_insert_of_ne {name other : String} (h : other ≠ name) (ms : Members)
    (value : Json) : (ms.insert name value).string? other = ms.string? other := by
  rw [string?, get?_insert_of_ne h, string?]

theorem onObject_of_some {name : String} {ms inner : Members} (h : ms.object? name = some inner)
    (change : Members → Members) :
    ms.onObject name change = ms.insert name (.object (change inner)) := by
  rw [onObject, h]

theorem onObject_of_none {name : String} {ms : Members} (h : ms.object? name = none)
    (change : Members → Members) : ms.onObject name change = ms := by
  rw [onObject, h]

theorem onObject_eq_elim (name : String) (change : Members → Members) (ms : Members) :
    ms.onObject name change =
      (ms.object? name).elim ms fun inner => ms.insert name (.object (change inner)) := by
  unfold onObject
  cases ms.object? name <;> rfl

@[simp] theorem object?_onObject_self (ms : Members) (name : String)
    (change : Members → Members) :
    (ms.onObject name change).object? name = (ms.object? name).map change := by
  cases h : ms.object? name with
  | none => rw [onObject_of_none h, h, Option.map_none]
  | some inner => rw [onObject_of_some h, object?_insert_self, Option.map_some]

/-- Two changes of one inner object are one change. -/
theorem onObject_onObject (ms : Members) (name : String) (change later : Members → Members) :
    (ms.onObject name change).onObject name later = ms.onObject name (later ∘ change) := by
  cases h : ms.object? name with
  | none => rw [onObject_of_none h, onObject_of_none h, onObject_of_none h]
  | some inner =>
    rw [onObject_of_some h, onObject_of_some (object?_insert_self ms name _), insert_insert_self,
      onObject_of_some h, Function.comp_apply]

theorem inObject_inObject (ms : Members) (name : String) (change later : Members → Members) :
    (ms.inObject name change).inObject name later = ms.inObject name (later ∘ change) := by
  simp [inObject]

/-- A later change may undo all that an earlier one did. -/
theorem inObject_onObject {change later : Members → Members}
    (h : ∀ inner, later (change inner) = later inner) (ms : Members) (name : String) :
    (ms.onObject name change).inObject name later = ms.inObject name later := by
  cases hinner : ms.object? name with
  | none => rw [onObject_of_none hinner]
  | some inner => simp [onObject_of_some hinner, inObject, hinner, h]

/-- What is read of an object depends on the members under some names alone. -/
def ReadsOnly {β : Type} (names : List String) (read : Members → β) : Prop :=
  ∀ (ms : Members) (name : String) (value : Json), name ∉ names →
    read (ms.insert name value) = read ms

/-- Inserts some members one after the other. -/
def insertAll (ms updates : Members) : Members := updates.foldl (fun ms m => ms.insert m.1 m.2) ms

/-- The change inserts members under some names, and what it inserts depends on the members under
these names alone. -/
def Touches (names : List String) (change : Members → Members) : Prop :=
  ∃ updates : Members → Members, ReadsOnly names updates ∧
    (∀ ms, ∀ m ∈ updates ms, m.1 ∈ names) ∧ ∀ ms, change ms = ms.insertAll (updates ms)

section Reads

variable {β γ : Type} {names : List String} {name : String}

theorem readsOnly_get? (h : name ∈ names) : ReadsOnly names (get? name) := by
  intro ms other value hother
  have hne : name ≠ other := by
    rintro rfl
    exact hother h
  exact get?_insert_of_ne hne ms value

theorem ReadsOnly.comp {read : Members → β} (h : ReadsOnly names read) (f : β → γ) :
    ReadsOnly names fun ms => f (read ms) := fun ms name value hname =>
  congrArg f (h ms name value hname)

theorem readsOnly_object? (h : name ∈ names) : ReadsOnly names (object? name) :=
  (readsOnly_get? h).comp (·.bind members?)

theorem readsOnly_string? (h : name ∈ names) : ReadsOnly names (string? name) :=
  (readsOnly_get? h).comp (·.bind str?)

theorem ReadsOnly.mono {read : Members → β} {more : List String} (h : ReadsOnly names read)
    (hmore : ∀ name ∈ names, name ∈ more) : ReadsOnly more read := fun ms name value hname =>
  h ms name value fun hmem => hname (hmore name hmem)

theorem insertAll_cons (ms updates : Members) (m : String × Json) :
    ms.insertAll (m :: updates) = (ms.insert m.1 m.2).insertAll updates := List.foldl_cons ..

theorem insertAll_append (ms updates later : Members) :
    ms.insertAll (updates ++ later) = (ms.insertAll updates).insertAll later := List.foldl_append

/-- Members under other names may be inserted before or after. -/
theorem insertAll_insert {updates : Members} (h : ∀ m ∈ updates, m.1 ≠ name) (ms : Members)
    (value : Json) :
    (ms.insert name value).insertAll updates = (ms.insertAll updates).insert name value := by
  induction updates generalizing ms with
  | nil => rfl
  | cons m updates ih =>
    obtain ⟨hm, hupdates⟩ := List.forall_mem_cons.1 h
    rw [insertAll_cons, insert_comm hm.symm, ih hupdates, ← insertAll_cons]

theorem insertAll_comm {updates others : Members} (h : ∀ m ∈ updates, ∀ n ∈ others, m.1 ≠ n.1)
    (ms : Members) :
    (ms.insertAll others).insertAll updates = (ms.insertAll updates).insertAll others := by
  induction others generalizing ms with
  | nil => rfl
  | cons n others ih =>
    have hn : ∀ m ∈ updates, m.1 ≠ n.1 := fun m hm => h m hm n List.mem_cons_self
    have hothers : ∀ m ∈ updates, ∀ k ∈ others, m.1 ≠ k.1 := fun m hm k hk =>
      h m hm k (List.mem_cons_of_mem n hk)
    rw [insertAll_cons, ih hothers, insertAll_insert hn, ← insertAll_cons]

theorem ReadsOnly.insertAll {read : Members → β} (h : ReadsOnly names read) {updates : Members}
    (hupdates : ∀ m ∈ updates, m.1 ∉ names) (ms : Members) :
    read (ms.insertAll updates) = read ms := by
  induction updates generalizing ms with
  | nil => rfl
  | cons m updates ih =>
    obtain ⟨hm, hrest⟩ := List.forall_mem_cons.1 hupdates
    exact (ih hrest _).trans (h ms m.1 m.2 hm)

/-- What is read of some names is not changed under other ones. -/
theorem ReadsOnly.read_eq {others : List String} {read : Members → β}
    {change : Members → Members} (h : ReadsOnly names read) (hchange : Touches others change)
    (hapart : ∀ name ∈ others, name ∉ names) (ms : Members) : read (change ms) = read ms := by
  obtain ⟨updates, -, hnames, hupdates⟩ := hchange
  rw [hupdates]
  exact h.insertAll (fun m hm => hapart m.1 (hnames ms m hm)) ms

end Reads

namespace Touches

variable {names others : List String} {name : String} {change later : Members → Members}

theorem insert_comm (h : Touches names change) (hname : name ∉ names) (ms : Members)
    (value : Json) : change (Members.insert name value ms) = Members.insert name value (change ms) := by
  obtain ⟨updates, hreads, hnames, hupdates⟩ := h
  have hne : ∀ m ∈ updates ms, m.1 ≠ name := by
    rintro m hm rfl
    exact hname (hnames ms m hm)
  rw [hupdates, hupdates, hreads ms name value hname, insertAll_insert hne]

protected theorem id : Touches names id := ⟨fun _ => [], fun _ _ _ _ => rfl, nofun, fun _ => rfl⟩

theorem mono (h : Touches names change) (hothers : ∀ name ∈ names, name ∈ others) :
    Touches others change := by
  obtain ⟨updates, hreads, hnames, hupdates⟩ := h
  exact ⟨updates, hreads.mono hothers, fun ms m hm => hothers m.1 (hnames ms m hm), hupdates⟩

theorem insert (hname : name ∈ names) {value : Members → Json} (h : ReadsOnly names value) :
    Touches names fun ms => Members.insert name (value ms) ms := by
  refine ⟨fun ms => [(name, value ms)], h.comp fun v => [(name, v)], fun ms m hm => ?_,
    fun _ => rfl⟩
  rw [List.mem_singleton.1 hm]
  exact hname

theorem insert_const (hname : name ∈ names) (value : Json) :
    Touches names (Members.insert name value) :=
  .insert hname fun _ _ _ _ => rfl

theorem comp (hlater : Touches names later) (hchange : Touches names change) :
    Touches names (later ∘ change) := by
  have hbefore : ∀ ms name value, name ∉ names →
      change (Members.insert name value ms) = Members.insert name value (change ms) :=
    fun ms _ value hname => hchange.insert_comm hname ms value
  obtain ⟨updates, hreads, hnames, hupdates⟩ := hchange
  obtain ⟨laterUpdates, hlaterReads, hlaterNames, hlaterUpdates⟩ := hlater
  refine ⟨fun ms => updates ms ++ laterUpdates (change ms), fun ms name value hname => ?_,
    fun ms m hm => ?_, fun ms => ?_⟩
  · simp only [hreads ms name value hname, hbefore ms name value hname, hlaterReads _ name value hname]
  · rcases List.mem_append.1 hm with hm | hm
    · exact hnames ms m hm
    · exact hlaterNames _ m hm
  · rw [insertAll_append, ← hupdates, ← hlaterUpdates, Function.comp_apply]

/-- Which change is made may depend on what is read. -/
theorem ofRead {β : Type} {read : Members → β} {change : β → Members → Members}
    (hread : ReadsOnly names read) (h : ∀ b, Touches names (change b)) :
    Touches names fun ms => change (read ms) ms := by
  choose updates hreads hnames hupdates using h
  refine ⟨fun ms => updates (read ms) ms, fun ms name value hname => ?_,
    fun ms => hnames (read ms) ms, fun ms => hupdates (read ms) ms⟩
  simp only [hread ms name value hname, hreads (read ms) ms name value hname]

theorem ofSome {β : Type} {read : Members → Option β} {change : β → Members → Members}
    (hread : ReadsOnly names read) (h : ∀ b, Touches names (change b)) :
    Touches names fun ms => (read ms).elim ms (change · ms) := by
  have hchange (b : Option β) : Touches names fun ms => b.elim ms (change · ms) := by
    cases b with
    | none => exact .id
    | some b => exact h b
  exact ofRead hread hchange

theorem onObject (hname : name ∈ names) (change : Members → Members) :
    Touches names (Members.onObject name change) := by
  rw [show Members.onObject name change = _ from funext (onObject_eq_elim name change)]
  exact ofSome (readsOnly_object? hname) fun inner => insert_const hname (.object (change inner))

theorem inObject (hname : name ∈ names) (change : Members → Members) :
    Touches names (Members.inObject name change) :=
  have hvalue : ReadsOnly names fun ms =>
      Json.object (change ((Members.object? name ms).getD [])) :=
    (readsOnly_object? hname).comp fun inner => Json.object (change (inner.getD []))
  insert hname hvalue

/-- Changes that touch different names may be made in either order. -/
theorem commute (hchange : Touches names change) (hlater : Touches others later)
    (hapart : ∀ name ∈ names, name ∉ others) : Function.Commute change later := by
  intro ms
  obtain ⟨updates, hreads, hnames, hupdates⟩ := hchange
  obtain ⟨laterUpdates, hlaterReads, hlaterNames, hlaterUpdates⟩ := hlater
  have hkept : updates (later ms) = updates ms := by
    rw [hlaterUpdates]
    exact hreads.insertAll (fun m hm hmem => hapart _ hmem (hlaterNames ms m hm)) ms
  have hlaterKept : laterUpdates (change ms) = laterUpdates ms := by
    rw [hupdates]
    exact hlaterReads.insertAll (fun m hm hmem => hapart _ (hnames ms m hm) hmem) ms
  have hne : ∀ m ∈ updates ms, ∀ n ∈ laterUpdates ms, m.1 ≠ n.1 := by
    intro m hm n hn heq
    exact hapart _ (hnames ms m hm) (heq ▸ hlaterNames ms n hn)
  rw [hupdates, hlaterUpdates (change ms), hkept, hlaterKept, hupdates, hlaterUpdates,
    insertAll_comm hne]

end Touches

section Commute

variable {β : Type} {later : Members → Members}

/-- Which change is made depends on what the other change leaves alone. -/
theorem commute_ofRead {read : Members → β} {change : β → Members → Members}
    (hread : ∀ ms, read (later ms) = read ms) (h : ∀ b, Function.Commute (change b) later) :
    Function.Commute (fun ms => change (read ms) ms) later := by
  intro ms
  simp only [hread]
  exact h (read ms) ms

theorem commute_ofSome {read : Members → Option β} {change : β → Members → Members}
    (hread : ∀ ms, read (later ms) = read ms) (h : ∀ b, Function.Commute (change b) later) :
    Function.Commute (fun ms => (read ms).elim ms (change · ms)) later := by
  have hchange (b : Option β) : Function.Commute (fun ms => b.elim ms (change · ms)) later := by
    cases b with
    | none => exact .id_left
    | some b => exact h b
  exact commute_ofRead hread hchange

end Commute

/-- Making the change a second time changes nothing. -/
def Idempotent (change : Members → Members) : Prop := ∀ ms, change (change ms) = change ms

namespace Idempotent

variable {names : List String} {name : String} {change later : Members → Members}

protected theorem id : Idempotent id := fun _ => rfl

theorem insert (name : String) (value : Json) : Idempotent (Members.insert name value) := fun ms =>
  insert_insert_self ms name value value

theorem onObject (h : Idempotent change) (name : String) : Idempotent (Members.onObject name change) :=
  fun ms => by rw [onObject_onObject, show change ∘ change = change from funext h]

theorem inObject (h : Idempotent change) (name : String) : Idempotent (Members.inObject name change) :=
  fun ms => by rw [inObject_inObject, show change ∘ change = change from funext h]

theorem comp (hlater : Idempotent later) (hchange : Idempotent change)
    (h : Function.Commute later change) : Idempotent (later ∘ change) := by
  intro ms
  simp only [Function.comp_apply]
  rw [← h.eq, hchange, hlater]

/-- A change that leaves alone what it depends on. -/
theorem ofRead {β : Type} {read : Members → β} {change : β → Members → Members}
    (hread : ∀ ms, read (change (read ms) ms) = read ms) (h : ∀ b, Idempotent (change b)) :
    Idempotent fun ms => change (read ms) ms := by
  intro ms
  simp only [hread]
  exact h (read ms) ms

theorem ofSome {β : Type} {read : Members → Option β} {change : β → Members → Members}
    (hread : ∀ ms b, read (change b ms) = read ms) (h : ∀ b, Idempotent (change b)) :
    Idempotent fun ms => (read ms).elim ms (change · ms) := by
  intro ms
  cases hms : read ms with
  | none => simp [hms]
  | some b => simp [hms, hread, h b ms]

end Idempotent

/-- The change is idempotent and touches these names only. -/
structure Settles (names : List String) (change : Members → Members) : Prop where
  touches : Touches names change
  idempotent : Idempotent change

namespace Settles

variable {names others : List String} {change later : Members → Members}

theorem insert (name : String) (value : Json) : Settles [name] (Members.insert name value) :=
  ⟨.insert_const List.mem_cons_self value, .insert name value⟩

theorem onObject (h : Idempotent change) (name : String) :
    Settles [name] (Members.onObject name change) :=
  ⟨.onObject List.mem_cons_self change, h.onObject name⟩

theorem inObject (h : Idempotent change) (name : String) :
    Settles [name] (Members.inObject name change) :=
  ⟨.inObject List.mem_cons_self change, h.inObject name⟩

theorem comp (hlater : Settles others later) (hchange : Settles names change)
    (hapart : ∀ name ∈ others, name ∉ names) : Settles (others ++ names) (later ∘ change) := by
  refine ⟨.comp (hlater.touches.mono fun name => List.mem_append_left names)
    (hchange.touches.mono fun name => List.mem_append_right others), ?_⟩
  exact hlater.idempotent.comp hchange.idempotent (hlater.touches.commute hchange.touches hapart)

end Settles

end PlaybackRelay.Json.Members

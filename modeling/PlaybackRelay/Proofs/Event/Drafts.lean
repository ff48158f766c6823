import Mathlib.Data.List.Basic
import Mathlib.Data.List.Perm.Basic
import PlaybackRelay.Event.Decode
import PlaybackRelay.Proofs.Json.Filling

/-!
A draft holds one part for each field that was read, and it is the same draft in whatever order the
members of a message stand. Main statements: `interprets_take?` and `fill?_perm`.
-/
namespace PlaybackRelay.Event

open Json (Source StringToken Spaced Delimited Yields)

/-- What is read of a known member. -/
inductive Part where
  | sessionId (s : String)
  | name (s : String)
  | timestamp (i : Int64)
  | clientIp (ip : Option String)
  | version (i : Int64)
  | data (payload : Payload)

def Part.field : Part → Field
  | .sessionId _ => .sessionId
  | .name _ => .name
  | .timestamp _ => .timestamp
  | .clientIp _ => .clientIp
  | .version _ => .version
  | .data _ => .data

def int64? (x : Source) : Option Int64 :=
  (x.integer? Int64.minValue.toInt Int64.maxValue.toInt).map Int64.ofInt

/-- What a value denotes where a field is wanted. -/
def part? (depth : Nat) : Field → Source → Option Part
  | .sessionId, x => x.string?.map .sessionId
  | .name, x => x.string?.map .name
  | .timestamp, x => (int64? x).map .timestamp
  | .clientIp, x => x.optionalString?.map .clientIp
  | .version, x => (int64? x).map .version
  | .data, x => (x.members? depth).map .data

theorem field_of_part? {depth : Nat} {f : Field} {x : Source} {p : Part}
    (h : part? depth f x = some p) : p.field = f := by
  cases f <;> obtain ⟨_, -, rfl⟩ := Option.map_eq_some_iff.1 h <;> rfl

namespace Draft

def put (d : Draft) : Part → Draft
  | .sessionId s => { d with sessionId := some s }
  | .name s => { d with name := some s }
  | .timestamp i => { d with timestamp := some i }
  | .clientIp ip => { d with clientIp := some ip }
  | .version i => { d with version := some i }
  | .data payload => { d with data := some payload }

def get? (d : Draft) : Field → Option Part
  | .sessionId => d.sessionId.map .sessionId
  | .name => d.name.map .name
  | .timestamp => d.timestamp.map .timestamp
  | .clientIp => d.clientIp.map .clientIp
  | .version => d.version.map .version
  | .data => d.data.map .data

@[simp] theorem get?_put (d : Draft) (p : Part) (f : Field) :
    (d.put p).get? f = if p.field = f then some p else d.get? f := by
  cases p <;> cases f <;> rfl

@[simp] theorem get?_empty (f : Field) : empty.get? f = none := by
  cases f <;> rfl

theorem seen_eq (d : Draft) (f : Field) : d.seen f = (d.get? f).isSome := by
  cases f <;> simp [seen, get?]

theorem ext_get? {d d' : Draft} (h : ∀ f, d.get? f = d'.get? f) : d = d' := by
  have hinj {α : Type} {make : α → Part} (hmake : Function.Injective make) {a b : Option α}
      (h : a.map make = b.map make) : a = b := Option.map_injective hmake h
  obtain ⟨sessionId, name, timestamp, clientIp, version, data⟩ := d
  obtain ⟨sessionId', name', timestamp', clientIp', version', data'⟩ := d'
  obtain rfl := hinj (fun _ _ => Part.sessionId.inj) (h .sessionId)
  obtain rfl := hinj (fun _ _ => Part.name.inj) (h .name)
  obtain rfl := hinj (fun _ _ => Part.timestamp.inj) (h .timestamp)
  obtain rfl := hinj (fun _ _ => Part.clientIp.inj) (h .clientIp)
  obtain rfl := hinj (fun _ _ => Part.version.inj) (h .version)
  obtain rfl := hinj (fun _ _ => Part.data.inj) (h .data)
  rfl

theorem put_comm (d : Draft) {p q : Part} (h : p.field ≠ q.field) :
    (d.put p).put q = (d.put q).put p := by
  refine ext_get? fun f => ?_
  simp only [get?_put]
  by_cases hp : p.field = f
  · have hq : q.field ≠ f := fun hq => h (hp.trans hq.symm)
    simp [hp, hq]
  · simp [hp]

end Draft

def take? (depth : Nat) (d : Draft) (f : Field) (x : Source) : Option Draft :=
  (part? depth f x).map d.put

private theorem yields_readInt64 {x : Source} {cs rest : List Char} (h : Spaced x.tokens cs rest)
    (hrest : Delimited rest) : Yields ((int64? x).map (·, rest)) (Draft.readInt64 cs) := by
  have hread := (Json.yields_readInteger h hrest : Yields _
    (Json.readInteger Int64.minValue.toInt Int64.maxValue.toInt cs)).map
      fun (i, rest) => (Int64.ofInt i, rest)
  rw [Option.map_map] at hread
  rw [int64?, Option.map_map]
  exact hread

/-- Each field is read as the part that its value denotes. -/
theorem interprets_take? : shape.Interprets take? := by
  intro depth d f x cs rest h hrest
  have hmap {α : Type} {value : Option α} {result : Except Json.Fault (Json.Scanned α)}
      (hread : Yields (value.map (·, rest)) result) (make : α → Part) :
      Yields (((value.map make).map d.put).map (·, rest))
        (result.map fun x => (d.put (make x.1), x.2)) := by
    have hread := hread.map fun x => (d.put (make x.1), x.2)
    rw [Option.map_map] at hread
    rw [Option.map_map, Option.map_map]
    exact hread
  have hint := yields_readInt64 h hrest
  cases f with
  | sessionId => exact hmap (Json.yields_readString h) .sessionId
  | name => exact hmap (Json.yields_readString h) .name
  | timestamp => exact hmap hint .timestamp
  | clientIp => exact hmap (Json.yields_readOptional h) .clientIp
  | version => exact hmap hint .version
  | data => exact hmap (Json.yields_readObject h) .data

/-- A member of a message as it is written. -/
abbrev Member := StringToken × Source

/-- The field that a name stands for. -/
def field? (name : StringToken) : Option Field := name.value?.bind Field.ofName?

/-- A member whose name is read and is none of the known ones. -/
def Member.Other (m : Member) : Prop := ∃ name, m.1.value? = some name ∧ Field.ofName? name = none

section Members

variable {depth : Nat} {d d' : Draft} {m n : Member} {ms ns : List Member} {f g : Field}

abbrev enter? (depth : Nat) (d : Draft) (m : Member) : Option Draft := shape.enter? take? depth d m

theorem enter?_of_field (h : field? m.1 = some f) :
    enter? depth d m = if d.seen f then none else (part? depth f m.2).map d.put := by
  obtain ⟨name, hname, hf⟩ := Option.bind_eq_some_iff.1 h
  simp only [enter?, Json.Shape.enter?, hname, shape, Option.bind_some, hf]
  rfl

theorem enter?_of_other (h : m.Other) : enter? depth d m = some d := by
  obtain ⟨name, hname, hf⟩ := h
  simp only [enter?, Json.Shape.enter?, hname, shape, Option.bind_some, hf]

theorem enter?_of_value?_eq_none (h : m.1.value? = none) : enter? depth d m = none := by
  simp only [enter?, Json.Shape.enter?, h, Option.bind_none]

/-- A member is known, or it is another one, or its name cannot be read. -/
theorem member_cases (m : Member) :
    (∃ f, field? m.1 = some f) ∨ m.Other ∨ m.1.value? = none := by
  cases hname : m.1.value? with
  | none => exact Or.inr (Or.inr rfl)
  | some name =>
    cases hf : Field.ofName? name with
    | none => exact Or.inr (Or.inl ⟨name, hname, hf⟩)
    | some f => exact Or.inl ⟨f, by rw [field?, hname]; exact hf⟩

theorem enter?_enter?_eq_none (hm : field? m.1 = some f) (hn : field? n.1 = some f) :
    (enter? depth d m).bind (enter? depth · n) = none := by
  rw [enter?_of_field hm]
  split
  · rfl
  · cases hpart : part? depth f m.2 with
    | none => rfl
    | some p =>
      have hseen : (d.put p).seen f = true := by simp [Draft.seen_eq, field_of_part? hpart]
      rw [Option.map_some, Option.bind_some, enter?_of_field hn, if_pos hseen]

theorem enter?_eq_put (depth : Nat) (d : Draft) (h : field? m.1 = some f) :
    enter? depth d m = none ∨ ∃ p : Part, p.field = f ∧ enter? depth d m = some (d.put p) := by
  rw [enter?_of_field h]
  split
  · exact Or.inl rfl
  · cases hpart : part? depth f m.2 with
    | none => exact Or.inl rfl
    | some p => exact Or.inr ⟨p, field_of_part? hpart, rfl⟩

/-- A part of another field is not in the way. -/
theorem enter?_put {p : Part} (h : field? m.1 = some f) (hne : p.field ≠ f) :
    enter? depth (d.put p) m = (enter? depth d m).map (·.put p) := by
  have hseen : (d.put p).seen f = d.seen f := by simp [Draft.seen_eq, hne]
  rw [enter?_of_field h, enter?_of_field h, hseen]
  split
  · rfl
  · cases hpart : part? depth f m.2 with
    | none => rfl
    | some q =>
      have hput := d.put_comm (p := p) (q := q) (by rwa [field_of_part? hpart])
      exact congrArg some hput

/-- It does not matter which of two members stands first. -/
theorem enter?_comm (depth : Nat) (d : Draft) (m n : Member) :
    (enter? depth d m).bind (enter? depth · n) = (enter? depth d n).bind (enter? depth · m) := by
  rcases member_cases m with ⟨f, hm⟩ | hm | hm
  · rcases member_cases n with ⟨g, hn⟩ | hn | hn
    · by_cases hfg : f = g
      · subst hfg
        rw [enter?_enter?_eq_none hm hn, enter?_enter?_eq_none hn hm]
      · rcases enter?_eq_put depth d hm with hp | ⟨p, rfl, hp⟩ <;>
          rcases enter?_eq_put depth d hn with hq | ⟨q, rfl, hq⟩
        · rw [hp, hq]
          rfl
        · rw [hp, hq, Option.bind_some, enter?_put hm (Ne.symm hfg), hp]
          rfl
        · rw [hp, hq, Option.bind_some, enter?_put hn hfg, hq]
          rfl
        · rw [hp, hq, Option.bind_some, Option.bind_some, enter?_put hn hfg,
            enter?_put hm (Ne.symm hfg), hp, hq]
          exact congrArg some (d.put_comm (Ne.symm hfg))
    · simp [enter?_of_other hn]
    · simp [enter?_of_value?_eq_none hn]
  · simp [enter?_of_other hm]
  · simp [enter?_of_value?_eq_none hm]

/-- The draft that is left of the members. -/
def fill? (depth : Nat) (d : Draft) (ms : List Member) : Option Draft :=
  ms.foldlM (enter? depth) d

theorem fill?_cons : fill? depth d (m :: ms) = (enter? depth d m).bind (fill? depth · ms) :=
  List.foldlM_cons

theorem fill?_append : fill? depth d (ms ++ ns) = (fill? depth d ms).bind (fill? depth · ns) :=
  List.foldlM_append

theorem fill?_perm (hperm : ms.Perm ns) : fill? depth d ms = fill? depth d ns := by
  rw [fill?, fill?, List.foldlM_eq_foldl, List.foldlM_eq_foldl]
  refine hperm.foldl_eq' (fun m _ n _ result => ?_) _
  cases result with
  | none => rfl
  | some d => exact enter?_comm depth d m n

/-- A field that was read before is refused wherever it stands again. -/
theorem fill?_eq_none_of_seen (hseen : d.seen f = true) (hm : m ∈ ms) (h : field? m.1 = some f) :
    fill? depth d ms = none := by
  obtain ⟨before, after, rfl⟩ := List.append_of_mem hm
  rw [fill?_perm List.perm_middle, fill?_cons, enter?_of_field h, if_pos hseen]
  rfl

/-- A field of which there is no member is left alone. -/
theorem get?_of_fill?_of_forall_ne (h : fill? depth d ms = some d')
    (hms : ∀ m ∈ ms, field? m.1 ≠ some f) : d'.get? f = d.get? f := by
  induction ms generalizing d with
  | nil =>
    obtain rfl := Option.some.inj h
    rfl
  | cons m ms ih =>
    obtain ⟨hm, hms⟩ := List.forall_mem_cons.1 hms
    rw [fill?_cons] at h
    obtain ⟨d₁, hfirst, hrest⟩ := Option.bind_eq_some_iff.1 h
    rw [ih hrest hms]
    rcases member_cases m with ⟨g, hg⟩ | hother | hname
    · rcases enter?_eq_put depth d hg with hnone | ⟨p, rfl, hput⟩
      · rw [hnone] at hfirst
        contradiction
      · rw [hput] at hfirst
        obtain rfl := Option.some.inj hfirst
        rw [Draft.get?_put, if_neg]
        rintro rfl
        exact hm hg
    · rw [enter?_of_other hother] at hfirst
      obtain rfl := Option.some.inj hfirst
      rfl
    · rw [enter?_of_value?_eq_none hname] at hfirst
      contradiction

/-- A draft holds what the member of a field denotes. -/
theorem get?_of_fill?_of_mem (h : fill? depth d ms = some d') (hm : m ∈ ms)
    (hf : field? m.1 = some f) : ∃ p, part? depth f m.2 = some p ∧ d'.get? f = some p := by
  obtain ⟨before, after, rfl⟩ := List.append_of_mem hm
  rw [fill?_perm List.perm_middle, fill?_cons] at h
  obtain ⟨d₁, hfirst, hrest⟩ := Option.bind_eq_some_iff.1 h
  rw [enter?_of_field hf] at hfirst
  split at hfirst
  · contradiction
  obtain ⟨p, hpart, rfl⟩ := Option.map_eq_some_iff.1 hfirst
  have hfield := field_of_part? hpart
  refine ⟨p, hpart, ?_⟩
  rw [get?_of_fill?_of_forall_ne hrest fun n hn hg => ?_, Draft.get?_put, if_pos hfield]
  have hseen : (d.put p).seen f = true := by simp [Draft.seen_eq, hfield]
  rw [fill?_eq_none_of_seen hseen hn hg] at hrest
  contradiction

end Members

end PlaybackRelay.Event

import Mathlib.Data.String.Basic
import PlaybackRelay.Json.Read
import PlaybackRelay.Proofs.Json.Record
import PlaybackRelay.Proofs.Json.Text

/-!
What readers return: in every object the names are in order without repetition, and an object that
was read as one has a name that is not reserved, since its first name was none. Main statements:
`wellFormed_of_readSteps` and `of_readObject`.
-/
namespace PlaybackRelay.Json

theorem map_eq_ok {α β ε : Type} {x : Except ε α} {f : α → β} {b : β} :
    x.map f = .ok b ↔ ∃ a, x = .ok a ∧ f a = b := by
  cases x <;> simp [Except.map]

namespace Members

/-- The names are in order, so that none stands there twice. -/
def Ordered (ms : Members) : Prop := ms.Pairwise fun m n => m.1 < n.1

/-- The object has a name that is not reserved, if it has any. -/
def Genuine (ms : Members) : Prop := ms = [] ∨ ∃ m ∈ ms, Wrapped.ofName? m.1 = none

variable {ms : Members} {name : String} {value : Json}

theorem mem_of_mem_insert {m : String × Json} (h : m ∈ ms.insert name value) :
    m = (name, value) ∨ m ∈ ms := by
  induction ms with
  | nil => exact Or.inl (List.mem_singleton.1 h)
  | cons first ms ih =>
    obtain ⟨k, v⟩ := first
    rw [Members.insert] at h
    split at h
    · rcases List.mem_cons.1 h with h | h
      · exact Or.inl h
      · exact Or.inr (List.mem_cons_of_mem _ h)
    · split at h
      · rcases List.mem_cons.1 h with h | h
        · exact Or.inr (List.mem_cons.2 (Or.inl h))
        · exact (ih h).imp_right (List.mem_cons_of_mem _)
      · exact List.mem_cons.1 h

theorem mem_insert_self (ms : Members) (name : String) (value : Json) :
    (name, value) ∈ ms.insert name value := by
  induction ms with
  | nil => exact List.mem_singleton_self _
  | cons first ms ih =>
    obtain ⟨k, v⟩ := first
    rw [Members.insert]
    split
    · exact List.mem_cons_self
    · split
      · exact List.mem_cons_of_mem _ ih
      · exact List.mem_cons_self

/-- No name is lost. -/
theorem exists_mem_insert {m : String × Json} (h : m ∈ ms) (name : String) (value : Json) :
    ∃ n ∈ ms.insert name value, n.1 = m.1 := by
  induction ms with
  | nil => contradiction
  | cons first ms ih =>
    obtain ⟨k, v⟩ := first
    rw [Members.insert]
    split
    · rename_i hk
      rcases List.mem_cons.1 h with rfl | h
      · exact ⟨_, List.mem_cons_self, hk.symm⟩
      · exact ⟨m, List.mem_cons_of_mem _ h, rfl⟩
    · split
      · rcases List.mem_cons.1 h with rfl | h
        · exact ⟨_, List.mem_cons_self, rfl⟩
        · obtain ⟨n, hn, hname⟩ := ih h
          exact ⟨n, List.mem_cons_of_mem _ hn, hname⟩
      · exact ⟨m, List.mem_cons_of_mem _ h, rfl⟩

theorem Ordered.nil : Ordered [] := List.Pairwise.nil

theorem Ordered.insert (h : Ordered ms) (name : String) (value : Json) :
    Ordered (ms.insert name value) := by
  induction ms with
  | nil => exact List.pairwise_singleton _ _
  | cons first ms ih =>
    obtain ⟨k, v⟩ := first
    obtain ⟨hfirst, hrest⟩ := List.pairwise_cons.1 h
    rw [Members.insert]
    split
    · rename_i hk
      exact List.pairwise_cons.2 ⟨hk ▸ hfirst, hrest⟩
    · rename_i hk
      split
      · rename_i hlt
        refine List.pairwise_cons.2 ⟨fun m hm => ?_, ih hrest⟩
        rcases mem_of_mem_insert hm with rfl | hm
        · exact hlt
        · exact hfirst m hm
      · rename_i hlt
        have hgt : name < k := lt_of_le_of_ne (not_lt.1 hlt) (Ne.symm hk)
        refine List.pairwise_cons.2 ⟨fun m hm => ?_, h⟩
        rcases List.mem_cons.1 hm with rfl | hm
        · exact hgt
        · exact hgt.trans (hfirst m hm)

/-- A name behind all others goes to the end. -/
theorem insert_of_forall_lt (h : ∀ m ∈ ms, m.1 < name) :
    ms.insert name value = ms ++ [(name, value)] := by
  induction ms with
  | nil => rfl
  | cons first ms ih =>
    obtain ⟨k, v⟩ := first
    obtain ⟨hfirst, hrest⟩ := List.forall_mem_cons.1 h
    rw [Members.insert, if_neg hfirst.ne, if_pos hfirst, ih hrest, List.cons_append]

theorem Genuine.of_mem {m : String × Json} (hm : m ∈ ms) (h : Wrapped.ofName? m.1 = none) :
    Genuine ms := Or.inr ⟨m, hm, h⟩

theorem Genuine.insert (h : Wrapped.ofName? name = none) (ms : Members) (value : Json) :
    Genuine (ms.insert name value) := .of_mem (mem_insert_self ms name value) h

end Members

/-- Every object in the value is in order and has a name that is not reserved, if any. -/
inductive WellFormed : Json → Prop where
  | null : WellFormed .null
  | bool (b : Bool) : WellFormed (.bool b)
  | number (n : Number) : WellFormed (.number n)
  | string (s : String) : WellFormed (.string s)
  | array {items : List Json} : (∀ v ∈ items, WellFormed v) → WellFormed (.array items)
  | object {ms : Members} : ms.Ordered → ms.Genuine → (∀ m ∈ ms, WellFormed m.2) →
      WellFormed (.object ms)

/-- Members of a payload, whose own names may be reserved. -/
structure Members.WellFormed (ms : Members) : Prop where
  ordered : ms.Ordered
  values : ∀ m ∈ ms, m.2.WellFormed

namespace Members.WellFormed

variable {ms : Members}

theorem nil : WellFormed [] := ⟨.nil, by simp⟩

theorem insert (h : ms.WellFormed) (name : String) {value : Json} (hvalue : value.WellFormed) :
    (ms.insert name value).WellFormed := by
  refine ⟨h.ordered.insert name value, fun m hm => ?_⟩
  rcases mem_of_mem_insert hm with rfl | hm
  · exact hvalue
  · exact h.values m hm

theorem object (h : ms.WellFormed) (hgenuine : ms.Genuine) : (Json.object ms).WellFormed :=
  .object h.ordered hgenuine h.values

theorem of_object (h : (Json.object ms).WellFormed) : ms.WellFormed ∧ ms.Genuine := by
  cases h with
  | object hordered hgenuine hvalues => exact ⟨⟨hordered, hvalues⟩, hgenuine⟩

end Members.WellFormed

theorem readItems_eq_ok {fuel depth : Nat} {done : List Json} {cs rest : List Char} {v : Json}
    (h : readItems (fuel + 1) depth done cs = .ok (v, rest)) :
    (nextItem done.isEmpty cs = .ok (false, rest) ∧ v = .array done.reverse) ∨
      ∃ (item : Json) (cs₁ cs₂ : List Char),
        nextItem done.isEmpty cs = .ok (true, cs₁) ∧
        readSteps fuel depth cs₁ = .ok (item, cs₂) ∧
        readItems fuel depth (item :: done) cs₂ = .ok (v, rest) := by
  rw [readItems] at h
  cases hnext : nextItem done.isEmpty cs with
  | error fault => rw [hnext] at h; contradiction
  | ok next =>
    obtain ⟨more, cs₁⟩ := next
    rw [hnext] at h
    cases more with
    | false =>
      obtain ⟨rfl, rfl⟩ := Prod.mk.inj (Except.ok.inj h)
      exact Or.inl ⟨rfl, rfl⟩
    | true =>
      simp only at h
      cases hitem : readSteps fuel depth cs₁ with
      | error fault => rw [hitem] at h; contradiction
      | ok scanned =>
        rw [hitem] at h
        exact Or.inr ⟨scanned.1, cs₁, scanned.2, rfl, hitem, h⟩

theorem readMembers_eq_ok {fuel depth : Nat} {first : Bool} {done : Members} {cs rest : List Char}
    {v : Json} (h : readMembers (fuel + 1) depth first done cs = .ok (v, rest)) :
    (nextName first cs = .ok (none, rest) ∧ v = .object done) ∨
      ∃ (name : String) (member : Json) (cs₁ cs₂ cs₃ : List Char),
        nextName first cs = .ok (some name, cs₁) ∧
        scanColon cs₁ = .ok cs₂ ∧
        readSteps fuel depth cs₂ = .ok (member, cs₃) ∧
        readMembers fuel depth false (done.insert name member) cs₃ = .ok (v, rest) := by
  rw [readMembers] at h
  cases hnext : nextName first cs with
  | error fault => rw [hnext] at h; contradiction
  | ok next =>
    obtain ⟨name, cs₁⟩ := next
    rw [hnext] at h
    cases name with
    | none =>
      obtain ⟨rfl, rfl⟩ := Prod.mk.inj (Except.ok.inj h)
      exact Or.inl ⟨rfl, rfl⟩
    | some name =>
      simp only at h
      cases hcolon : scanColon cs₁ with
      | error fault => rw [hcolon] at h; contradiction
      | ok cs₂ =>
        rw [hcolon] at h
        simp only at h
        cases hmember : readSteps fuel depth cs₂ with
        | error fault => rw [hmember] at h; contradiction
        | ok scanned =>
          rw [hmember] at h
          exact Or.inr ⟨name, scanned.1, cs₁, cs₂, scanned.2, rfl, hcolon, hmember, h⟩

theorem closeWrapped_eq_ok {α : Type} {v w : α} {cs rest : List Char}
    (h : closeWrapped v cs = .ok (w, rest)) : skipBlanks cs = '}' :: rest ∧ v = w := by
  unfold closeWrapped at h
  split at h
  · contradiction
  · rename_i hskip
    obtain ⟨rfl, rfl⟩ := Prod.mk.inj (Except.ok.inj h)
    exact ⟨hskip, rfl⟩
  · contradiction

theorem readWrappedValue_eq_ok {fuel : Nat} {cs rest : List Char} {v : Json}
    (h : readWrappedValue (fuel + 1) cs = .ok (v, rest)) :
    ∃ (text : String) (cs₁ cs₂ : List Char), readWrapped cs = .ok (text, cs₁) ∧
      readSteps fuel maxDepth text.toList = .ok (v, cs₂) ∧ skipBlanks cs₂ = [] ∧
      closeWrapped v cs₁ = .ok (v, rest) := by
  rw [readWrappedValue] at h
  obtain ⟨⟨text, cs₁⟩, hwrapped, h⟩ := bind_eq_ok.1 h
  simp only at h
  cases hread : readSteps fuel maxDepth text.toList with
  | error fault => rw [hread] at h; contradiction
  | ok scanned =>
    obtain ⟨w, cs₂⟩ := scanned
    rw [hread] at h
    simp only at h
    split at h
    · rename_i hend
      obtain ⟨-, rfl⟩ := closeWrapped_eq_ok h
      exact ⟨text, cs₁, cs₂, hwrapped, hread, hend, h⟩
    · contradiction

theorem Scalar.wellFormed {v : Json} (h : Scalar v) : v.WellFormed := by
  cases h <;> constructor

private theorem readSteps_eq_ok {fuel depth : Nat} {cs rest : List Char} {v : Json}
    (h : readSteps (fuel + 1) depth cs = .ok (v, rest)) :
    Scalar v ∨ (∃ cs₁, readItems fuel (depth - 1) [] cs₁ = .ok (v, rest)) ∨
      (∃ cs₁, wrapped? cs₁ = none ∧ readMembers fuel (depth - 1) true [] cs₁ = .ok (v, rest)) ∨
      ∃ cs₁, readWrappedValue fuel cs₁ = .ok (v, rest) := by
  rw [readSteps] at h
  split at h
  · contradiction
  · obtain ⟨_, -, heq⟩ := map_eq_ok.1 h
    exact Or.inl ((Prod.mk.inj heq).1 ▸ .null)
  · obtain ⟨_, -, heq⟩ := map_eq_ok.1 h
    exact Or.inl ((Prod.mk.inj heq).1 ▸ .bool true)
  · obtain ⟨_, -, heq⟩ := map_eq_ok.1 h
    exact Or.inl ((Prod.mk.inj heq).1 ▸ .bool false)
  · obtain ⟨⟨s, _⟩, -, heq⟩ := map_eq_ok.1 h
    exact Or.inl ((Prod.mk.inj heq).1 ▸ .string s)
  · split at h
    · contradiction
    · exact Or.inr (Or.inl ⟨_, h⟩)
  · split at h
    · contradiction
    · split at h
      · rename_i hwrapped
        exact Or.inr (Or.inr (Or.inl ⟨_, hwrapped, h⟩))
      · obtain ⟨⟨n, _⟩, -, heq⟩ := map_eq_ok.1 h
        exact Or.inl ((Prod.mk.inj heq).1 ▸ .number n)
      · exact Or.inr (Or.inr (Or.inr ⟨_, h⟩))
  · split at h
    · obtain ⟨⟨n, _⟩, -, heq⟩ := map_eq_ok.1 h
      exact Or.inl ((Prod.mk.inj heq).1 ▸ .number n)
    · contradiction

/-- Reading more members keeps the names of those that were read. -/
theorem exists_mem_of_readMembers {fuel depth : Nat} {first : Bool} {done ms : Members}
    {cs rest : List Char} (h : readMembers fuel depth first done cs = .ok (.object ms, rest))
    {m : String × Json} (hm : m ∈ done) : ∃ n ∈ ms, n.1 = m.1 := by
  induction fuel generalizing first done cs m with
  | zero => simp [readMembers] at h
  | succ fuel ih =>
    rcases readMembers_eq_ok h with ⟨-, heq⟩ | ⟨name, member, _, _, _, -, -, -, hrest⟩
    · obtain rfl := Json.object.inj heq
      exact ⟨m, hm, rfl⟩
    · obtain ⟨n, hn, hname⟩ := Members.exists_mem_insert hm name member
      obtain ⟨n', hn', hname'⟩ := ih hrest hn
      exact ⟨n', hn', hname'.trans hname⟩

/-- An object that is not a wrapped value was read from a name that is not reserved, if from any. -/
theorem genuine_of_readMembers {fuel depth : Nat} {ms : Members} {cs rest : List Char}
    (hwrapped : wrapped? cs = none)
    (h : readMembers fuel depth true [] cs = .ok (.object ms, rest)) : ms.Genuine := by
  cases fuel with
  | zero => simp [readMembers] at h
  | succ fuel =>
    rcases readMembers_eq_ok h with ⟨-, heq⟩ | ⟨name, member, _, _, _, hnext, -, -, hrest⟩
    · exact Or.inl (Json.object.inj heq)
    · have hname : Wrapped.ofName? name = none := by
        simpa [wrapped?, hnext] using hwrapped
      have hmember := Members.mem_insert_self [] name member
      obtain ⟨n, hn, heq⟩ := exists_mem_of_readMembers hrest hmember
      exact .of_mem hn (heq ▸ hname)

/-- All that the four readers return is well formed, if what they had read before is. -/
theorem wellFormed_of_fuel (fuel : Nat) :
    (∀ {depth cs v rest}, readSteps fuel depth cs = .ok (v, rest) → v.WellFormed) ∧
    (∀ {depth done cs v rest}, readItems fuel depth done cs = .ok (v, rest) →
      (∀ item ∈ done, item.WellFormed) → v.WellFormed) ∧
    (∀ {depth first done cs v rest}, readMembers fuel depth first done cs = .ok (v, rest) →
      done.WellFormed → ∃ ms : Members, v = .object ms ∧ ms.WellFormed) ∧
    (∀ {cs v rest}, readWrappedValue fuel cs = .ok (v, rest) → v.WellFormed) := by
  induction fuel with
  | zero => simp [readSteps, readItems, readMembers, readWrappedValue]
  | succ fuel ih =>
    obtain ⟨hsteps, hitems, hmembers, hwrappedValue⟩ := ih
    refine ⟨fun h => ?_, fun h hdone => ?_, fun h hdone => ?_, fun h => ?_⟩
    · rcases readSteps_eq_ok h with hscalar | ⟨_, h⟩ | ⟨_, hwrapped, h⟩ | ⟨_, h⟩
      · exact hscalar.wellFormed
      · exact hitems h (by simp)
      · obtain ⟨ms, rfl, hms⟩ := hmembers h .nil
        exact hms.object (genuine_of_readMembers hwrapped h)
      · exact hwrappedValue h
    · rcases readItems_eq_ok h with ⟨-, rfl⟩ | ⟨item, _, _, -, hitem, h⟩
      · exact .array fun v hv => hdone v (List.mem_reverse.1 hv)
      · exact hitems h (List.forall_mem_cons.2 ⟨hsteps hitem, hdone⟩)
    · rcases readMembers_eq_ok h with ⟨-, rfl⟩ | ⟨name, member, _, _, _, -, -, hmember, h⟩
      · exact ⟨_, rfl, hdone⟩
      · exact hmembers h (hdone.insert name (hsteps hmember))
    · obtain ⟨_, _, _, -, h, -⟩ := readWrappedValue_eq_ok h
      exact hsteps h

theorem wellFormed_of_readSteps {fuel depth : Nat} {cs rest : List Char} {v : Json}
    (h : readSteps fuel depth cs = .ok (v, rest)) : v.WellFormed := (wellFormed_of_fuel fuel).1 h

theorem Members.WellFormed.of_readObject {depth : Nat} {cs rest : List Char} {ms : Members}
    (h : readObject depth cs = .ok (ms, rest)) : ms.WellFormed := by
  unfold readObject at h
  split at h
  · simp only at h
    split at h
    · contradiction
    · obtain ⟨⟨v, rest'⟩, hread, h⟩ := bind_eq_ok.1 h
      obtain ⟨ms', rfl, hms⟩ := (wellFormed_of_fuel _).2.2.1 hread .nil
      obtain ⟨rfl, -⟩ := Prod.mk.inj (Except.ok.inj h)
      exact hms
  · contradiction

end PlaybackRelay.Json

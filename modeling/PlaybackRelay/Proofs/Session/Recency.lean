import PlaybackRelay.Proofs.Session.Capacity

/-!
What a cache of recent sessions finds, told by the accesses that were made and by nothing else. A
session is found as long as fewer others than there is room for were touched behind it, whatever
was evicted and put again in between. Main statement: `get_run_eq_some_iff`.
-/
namespace PlaybackRelay

section Recency

variable {α : Type} [DecidableEq α]

/-- All that was touched, the latest first. -/
def recency (touched : List α) : List α := touched.dedup.reverse

/-- What was touched behind the last touch of `a`, the latest first. -/
def since (a : α) (touched : List α) : List α := touched.reverse.takeWhile (· ≠ a)

theorem nodup_recency (touched : List α) : (recency touched).Nodup :=
  List.nodup_reverse.2 touched.nodup_dedup

@[simp] theorem mem_recency {a : α} {touched : List α} : a ∈ recency touched ↔ a ∈ touched := by
  simp [recency]

private theorem dedup_concat (touched : List α) (a : α) :
    (touched ++ [a]).dedup = touched.dedup.filter (· ≠ a) ++ [a] := by
  induction touched with
  | nil => simp
  | cons b touched ih =>
    by_cases hb : b ∈ touched
    · rw [List.dedup_cons_of_mem hb, ← ih, List.cons_append,
        List.dedup_cons_of_mem (List.mem_append_left _ hb)]
    · rw [List.dedup_cons_of_notMem hb, List.cons_append]
      by_cases hba : b = a
      · rw [List.dedup_cons_of_mem (by simp [hba]), ih, List.filter_cons_of_neg (by simp [hba])]
      · rw [List.dedup_cons_of_notMem (by simp [hb, hba]), ih,
          List.filter_cons_of_pos (by simp [hba]), List.cons_append]

/-- A touch moves to the front what it touches. -/
theorem recency_concat (touched : List α) (a : α) :
    recency (touched ++ [a]) = a :: (recency touched).filter (· ≠ a) := by
  rw [recency, dedup_concat, List.reverse_concat, ← List.filter_reverse, recency]

private theorem since_concat (a b : α) (touched : List α) :
    since a (touched ++ [b]) = if b = a then [] else b :: since a touched := by
  rw [since, List.reverse_concat]
  by_cases h : b = a <;> simp [h, since]

theorem length_recency_concat (touched : List α) (a : α) :
    (recency (touched ++ [a])).length =
      (recency touched).length + if a ∈ touched then 0 else 1 := by
  rw [recency_concat, List.length_cons]
  by_cases ha : a ∈ touched
  · have hmem := mem_recency.2 ha
    have hfilter : (recency touched).filter (· ≠ a) = (recency touched).erase a := by
      rw [(nodup_recency touched).erase_eq_filter a]
      exact List.filter_congr fun b _ => by by_cases hb : b = a <;> simp [hb]
    have hpos := List.length_pos_of_mem hmem
    rw [hfilter, List.length_erase_of_mem hmem, if_pos ha]
    omega
  · have hfilter : (recency touched).filter (· ≠ a) = recency touched := by
      refine List.filter_eq_self.2 fun b hb => decide_eq_true ?_
      rintro rfl
      exact ha (mem_recency.1 hb)
    rw [hfilter, if_neg ha]

/-- What stands before `a` was touched behind its last touch. -/
theorem mem_takeWhile_recency {a b : α} {touched : List α} :
    b ∈ (recency touched).takeWhile (· ≠ a) ↔ b ∈ since a touched := by
  induction touched using List.reverseRecOn with
  | nil => simp [recency, since]
  | append_singleton touched c ih =>
    rw [recency_concat, since_concat]
    by_cases hc : c = a
    · simp [hc]
    · -- What moves to the front is not `a`, so that it changes nothing else before it.
      have hfilter : ((recency touched).filter (· ≠ c)).takeWhile (· ≠ a) =
          ((recency touched).takeWhile (· ≠ a)).filter (· ≠ c) := by
        rw [List.takeWhile_filter]
        congr 2
        funext x
        by_cases hx : x = c <;> simp [hx, hc]
      rw [if_neg hc, List.takeWhile_cons_of_pos (by simpa using hc), hfilter, List.mem_cons,
        List.mem_cons, List.mem_filter, ih]
      by_cases hb : b = c <;> simp [hb]

private theorem perm_takeWhile_recency (a : α) (touched : List α) :
    ((recency touched).takeWhile (· ≠ a)).Perm (since a touched).dedup := by
  have hnodup : ((recency touched).takeWhile (· ≠ a)).Nodup :=
    (nodup_recency touched).sublist (List.takeWhile_sublist _)
  rw [List.perm_ext_iff_of_nodup hnodup (List.nodup_dedup _)]
  intro b
  rw [mem_takeWhile_recency, List.mem_dedup]

/-- The place of `a` among all that was touched. -/
theorem takeWhile_recency_of_eq {a : α} {touched later earlier : List α}
    (h : recency touched = later ++ a :: earlier) :
    (recency touched).takeWhile (· ≠ a) = later := by
  have hnodup := nodup_recency touched
  rw [h, List.nodup_append] at hnodup
  have hlater : ∀ b ∈ later, decide (b ≠ a) = true := fun b hb =>
    decide_eq_true (hnodup.2.2 b hb a List.mem_cons_self)
  rw [h, List.takeWhile_append_of_pos hlater, List.takeWhile_cons_of_neg (by simp),
    List.append_nil]

/-- The first ones of all that was touched hold `a` if few others were touched behind it. -/
theorem mem_of_prefix_recency {a : α} {touched first : List α} (h : first <+: recency touched)
    (ha : a ∈ touched) : a ∈ first ↔ (since a touched).dedup.length < first.length := by
  obtain ⟨later, earlier, hsplit⟩ := List.append_of_mem (mem_recency.2 ha)
  have hlater := takeWhile_recency_of_eq hsplit
  have hlength := (perm_takeWhile_recency a touched).length_eq
  have hnodup := nodup_recency touched
  rw [hlater] at hlength
  rw [hsplit] at h hnodup
  rw [← hlength]
  constructor
  · intro hfirst
    by_contra hle
    have hpart : first <+: later :=
      List.prefix_of_prefix_length_le h (List.prefix_append _ _) (by omega)
    exact (List.nodup_append.1 hnodup).2.2 a (hpart.subset hfirst) a List.mem_cons_self rfl
  · intro hlt
    have hpart : later ++ [a] <+: later ++ a :: earlier := ⟨earlier, by simp⟩
    have hfirst : later ++ [a] <+: first :=
      List.prefix_of_prefix_length_le hpart h (by simpa using hlt)
    exact hfirst.subset (List.mem_append_right _ List.mem_cons_self)

end Recency

namespace RecentSessions

inductive Access where
  | put (id : String) (data : Payload)
  | get (id : String)

namespace Access

/-- What an access puts. -/
def put? : Access → Option (String × Payload)
  | put id data => some (id, data)
  | get _ => none

/-- What an access touches that was answered in some way: to look for a session is to touch it only
if it is found. -/
def touched : Access → Option Payload → List String
  | put id _, _ | get id, some _ => [id]
  | get _, none => []

end Access

/-- All that was put, in order. -/
def puts (accesses : List Access) : List (String × Payload) := accesses.filterMap Access.put?

/-- What was put last for a session. -/
def lastPut? (id : String) (accesses : List Access) : Option Payload :=
  (puts accesses).reverse.lookup id

/-- All touches of some accesses with their answers, in order. -/
def touches (accesses : List Access) (answers : List (Option Payload)) : List String :=
  (List.zipWith Access.touched accesses answers).flatten

/-- Makes an access; a put has no answer. -/
def access (c : RecentSessions) : Access → Option Payload × RecentSessions
  | .put id data => (none, (c.push id data).2)
  | .get id => c.get id

/-- Makes some accesses one after the other. -/
def run (c : RecentSessions) : List Access → List (Option Payload) × RecentSessions
  | [] => ([], c)
  | a :: accesses =>
    let (answer, c) := c.access a
    let (answers, c) := c.run accesses
    (answer :: answers, c)

theorem run_cons (c : RecentSessions) (a : Access) (accesses : List Access) :
    c.run (a :: accesses) =
      ((c.access a).1 :: ((c.access a).2.run accesses).1, ((c.access a).2.run accesses).2) := rfl

private theorem touches_cons (a : Access) (accesses : List Access) (answer : Option Payload)
    (answers : List (Option Payload)) :
    touches (a :: accesses) (answer :: answers) = a.touched answer ++ touches accesses answers :=
  rfl

theorem lastPut?_put (id key : String) (data : Payload) (accesses : List Access) :
    lastPut? id (accesses ++ [.put key data]) =
      if id = key then some data else lastPut? id accesses := by
  have hputs : puts (accesses ++ [.put key data]) = puts accesses ++ [(key, data)] := by
    simp [puts, Access.put?]
  rw [lastPut?, hputs, List.reverse_concat, lookup_cons_eq_if, lastPut?]

theorem puts_get (id : String) (accesses : List Access) :
    puts (accesses ++ [.get id]) = puts accesses := by
  simp [puts, Access.put?]

theorem isSome_lookup_iff {entries : List (String × Payload)} {id : String} :
    (entries.lookup id).isSome ↔ id ∈ entries.map Prod.fst := by
  rw [Option.isSome_iff_ne_none, ne_eq, List.lookup_eq_none_iff]
  simp

theorem fst_get (c : RecentSessions) (id : String) : (c.get id).1 = c.entries.lookup id := by
  unfold get
  split
  · rename_i hfound
    exact hfound.symm
  · rename_i hnone
    exact hnone.symm

theorem mem_of_lookup_eq_some {entries : List (String × Payload)} {id : String} {data : Payload}
    (h : entries.lookup id = some data) : (id, data) ∈ entries := by
  obtain ⟨before, after, rfl, -⟩ := List.lookup_eq_some_iff.1 h
  simp

/-- The last entry is the only one with its name. -/
theorem lookup_dropLast {entries : List (String × Payload)} (hnodup : (entries.map Prod.fst).Nodup)
    (id : String) :
    entries.dropLast.lookup id =
      if entries.getLast?.map Prod.fst = some id then none else entries.lookup id := by
  rcases List.eq_nil_or_concat' entries with rfl | ⟨others, ⟨last, data⟩, rfl⟩
  · rfl
  · rw [List.map_append, List.nodup_append] at hnodup
    rw [List.dropLast_concat, List.getLast?_concat, Option.map_some]
    by_cases hid : last = id
    · have hnone : ¬ (others.lookup id).isSome := by
        rw [isSome_lookup_iff]
        exact fun hmem => hnodup.2.2 id hmem last List.mem_cons_self hid.symm
      rw [if_pos (congrArg some hid), Option.not_isSome_iff_eq_none.1 hnone]
    · have hlast : ([(last, data)] : List (String × Payload)).lookup id = none := by
        rw [lookup_cons_eq_if, if_neg (Ne.symm hid), List.lookup_nil]
      rw [if_neg (fun heq => hid (Option.some.inj heq)), List.lookup_append, hlast, Option.or_none]

theorem kept_prefix_without (id : String) (c : RecentSessions) :
    c.kept id <+: without id c.entries := by
  unfold kept
  split
  · exact List.prefix_refl _
  · exact List.dropLast_prefix _

/-- Whatever happened to a cache, it holds the first ones of all that was touched, as many as there
is room for, with what was put for them last. -/
structure Recent (capacity : Nat) (history : List Access) (touched : List String)
    (c : RecentSessions) : Prop where
  capacity_eq : c.capacity = capacity
  order : c.entries.map Prod.fst <+: recency touched
  size_eq : c.entries.length = min capacity (recency touched).length
  latest : ∀ entry ∈ c.entries, lastPut? entry.1 history = some entry.2
  known : ∀ id, id ∈ touched ↔ id ∈ (puts history).map Prod.fst

namespace Recent

variable {capacity : Nat} {history : List Access} {touched : List String} {c : RecentSessions}

theorem ofCapacity (capacity : Nat) : Recent capacity [] [] (ofCapacity capacity) where
  capacity_eq := rfl
  order := List.prefix_refl _
  size_eq := (Nat.min_zero capacity).symm
  latest := fun _ hentry => absurd hentry List.not_mem_nil
  known := fun _ => Iff.rfl

theorem nodup (h : Recent capacity history touched c) : (c.entries.map Prod.fst).Nodup :=
  (nodup_recency touched).sublist h.order.sublist

theorem room (h : Recent capacity history touched c) : c.entries.length ≤ c.capacity := by
  rw [h.size_eq, h.capacity_eq]
  exact Nat.min_le_left _ _

theorem mem_touched (h : Recent capacity history touched c) {id : String}
    (hid : id ∈ c.entries.map Prod.fst) : id ∈ touched :=
  mem_recency.1 (h.order.subset hid)

/-- A cache that is not full has forgotten nothing. -/
theorem mem_entries (h : Recent capacity history touched c) (hroom : c.entries.length < capacity)
    {id : String} (hid : id ∈ touched) : id ∈ c.entries.map Prod.fst := by
  have hsize := h.size_eq
  have hlength : (c.entries.map Prod.fst).length = (recency touched).length := by
    rw [List.length_map]
    omega
  rw [h.order.eq_of_length hlength]
  exact mem_recency.2 hid

private theorem get_found (h : Recent capacity history touched c) {id : String} {data : Payload}
    (hfound : c.entries.lookup id = some data) :
    Recent capacity (history ++ [.get id]) (touched ++ [id])
      { c with entries := (id, data) :: without id c.entries } where
  capacity_eq := h.capacity_eq
  order := by
    rw [recency_concat, List.map_cons, map_fst_without]
    exact (List.prefix_cons_inj id).2 (h.order.filter _)
  size_eq := by
    have hmem : id ∈ c.entries.map Prod.fst := isSome_lookup_iff.1 (by rw [hfound]; rfl)
    rw [List.length_cons, length_without_of_lookup_eq_some h.nodup hfound, length_recency_concat,
      if_pos (h.mem_touched hmem), h.size_eq, Nat.add_zero]
  latest := by
    intro entry hentry
    rw [lastPut?, puts_get]
    rcases List.mem_cons.1 hentry with rfl | hentry
    · exact h.latest _ (mem_of_lookup_eq_some hfound)
    · exact h.latest entry (List.mem_of_mem_filter hentry)
  known := by
    intro other
    have hid : id ∈ touched := h.mem_touched (isSome_lookup_iff.1 (by rw [hfound]; rfl))
    rw [puts_get, ← h.known other, List.mem_append, List.mem_singleton]
    constructor
    · rintro (hother | rfl)
      · exact hother
      · exact hid
    · exact Or.inl

theorem get (h : Recent capacity history touched c) (id : String) :
    Recent capacity (history ++ [.get id]) (touched ++ Access.touched (.get id) (c.get id).1)
      (c.get id).2 := by
  cases hfound : c.entries.lookup id with
  | some data =>
    have hget : c.get id = (some data, { c with entries := (id, data) :: without id c.entries }) :=
      by rw [RecentSessions.get, hfound]
    rw [hget]
    exact h.get_found hfound
  | none =>
    have hget : c.get id = (none, c) := by rw [RecentSessions.get, hfound]
    rw [hget, Access.touched, List.append_nil]
    refine ⟨h.capacity_eq, h.order, h.size_eq, fun entry hentry => ?_, fun other => ?_⟩
    · rw [lastPut?, puts_get]
      exact h.latest entry hentry
    · rw [puts_get]
      exact h.known other

theorem known_put (h : Recent capacity history touched c) (id : String) (data : Payload)
    (other : String) :
    other ∈ touched ++ [id] ↔ other ∈ (puts (history ++ [.put id data])).map Prod.fst := by
  have hputs : puts (history ++ [.put id data]) = puts history ++ [(id, data)] := by
    simp [puts, Access.put?]
  rw [hputs, List.map_append, List.mem_append, List.mem_append, h.known other]
  rfl

/-- The sessions that stay beside a new one leave just one place free. -/
theorem length_kept (h : Recent capacity history touched c) (hcapacity : c.capacity ≠ 0)
    (id : String) :
    (c.kept id).length + 1 = min capacity (recency (touched ++ [id])).length := by
  have hroom := h.room
  have hsize := h.size_eq
  have heq := h.capacity_eq
  rw [length_recency_concat]
  unfold kept
  cases hfound : c.entries.lookup id with
  | some data =>
    have hlength := length_without_of_lookup_eq_some h.nodup hfound
    have hmem := h.mem_touched (isSome_lookup_iff.1 (by rw [hfound]; rfl))
    rw [if_pos (by omega), if_pos hmem]
    omega
  | none =>
    have hnone := not_mem_of_lookup_eq_none hfound
    rw [without_of_not_mem hnone]
    by_cases hfull : c.entries.length < c.capacity
    · have hmem : id ∉ touched := fun hid => hnone (h.mem_entries (by omega) hid)
      rw [if_pos hfull, if_neg hmem]
      omega
    · rw [if_neg hfull, List.length_dropLast]
      omega

theorem push (h : Recent capacity history touched c) (id : String) (data : Payload) :
    Recent capacity (history ++ [.put id data]) (touched ++ [id]) (c.push id data).2 := by
  by_cases hcapacity : c.capacity = 0
  · have hroom := h.room
    have hnone : c.entries = [] := List.length_eq_zero_iff.1 (by omega)
    rw [push_snd_of_capacity_eq_zero hcapacity]
    refine ⟨h.capacity_eq, ?_, ?_, ?_, h.known_put id data⟩
    · rw [hnone]
      exact List.nil_prefix
    · rw [hnone, ← h.capacity_eq, hcapacity, Nat.zero_min]
      rfl
    · rw [hnone]
      exact fun _ hentry => absurd hentry List.not_mem_nil
  · rw [push_snd hcapacity]
    refine ⟨h.capacity_eq, ?_, h.length_kept hcapacity id, ?_, h.known_put id data⟩
    · have hkept := (kept_prefix_without id c).map Prod.fst
      rw [map_fst_without] at hkept
      rw [recency_concat, List.map_cons]
      exact (List.prefix_cons_inj id).2 (hkept.trans (h.order.filter _))
    · intro entry hentry
      rw [lastPut?_put]
      rcases List.mem_cons.1 hentry with rfl | hentry
      · rw [if_pos rfl]
      · obtain ⟨hmem, hne⟩ := List.mem_filter.1 ((kept_sublist_without id c).subset hentry)
        rw [if_neg (of_decide_eq_true hne)]
        exact h.latest entry hmem

theorem access (h : Recent capacity history touched c) (a : Access) :
    Recent capacity (history ++ [a]) (touched ++ a.touched (c.access a).1) (c.access a).2 := by
  cases a with
  | put id data => exact h.push id data
  | get id => exact h.get id

theorem run (h : Recent capacity history touched c) (accesses : List Access) :
    Recent capacity (history ++ accesses) (touched ++ touches accesses (c.run accesses).1)
      (c.run accesses).2 := by
  induction accesses generalizing history touched c with
  | nil => simpa [touches, RecentSessions.run] using h
  | cons a accesses ih =>
    have hnext := ih (h.access a)
    rw [List.append_assoc, List.append_assoc] at hnext
    rw [run_cons, touches_cons]
    exact hnext

/-- The sessions that are held are those behind whose last touch few others were touched. -/
theorem mem_entries_iff (h : Recent capacity history touched c) {id : String} :
    id ∈ c.entries.map Prod.fst ↔ id ∈ touched ∧ (since id touched).dedup.length < capacity := by
  constructor
  · intro hmem
    have hid := h.mem_touched hmem
    have hlt := (mem_of_prefix_recency h.order hid).1 hmem
    have hroom := h.room
    rw [List.length_map] at hlt
    rw [h.capacity_eq] at hroom
    exact ⟨hid, by omega⟩
  · rintro ⟨hid, hlt⟩
    refine (mem_of_prefix_recency h.order hid).2 ?_
    by_cases hfull : c.entries.length < capacity
    · -- Nothing was forgotten, so that the session is held anyway.
      exact (mem_of_prefix_recency h.order hid).1 (h.mem_entries hfull hid)
    · rw [List.length_map]
      omega

theorem get_eq_some_iff (h : Recent capacity history touched c) {id : String} {data : Payload} :
    (c.get id).1 = some data ↔
      lastPut? id history = some data ∧ (since id touched).dedup.length < capacity := by
  rw [fst_get]
  constructor
  · intro hfound
    have hmem : id ∈ c.entries.map Prod.fst := isSome_lookup_iff.1 (by rw [hfound]; rfl)
    exact ⟨h.latest _ (mem_of_lookup_eq_some hfound), (h.mem_entries_iff.1 hmem).2⟩
  · rintro ⟨hput, hlt⟩
    have hid : id ∈ (puts history).map Prod.fst := by
      have hmem := mem_of_lookup_eq_some hput
      exact List.mem_map_of_mem (List.mem_reverse.1 hmem)
    have hmem := h.mem_entries_iff.2 ⟨(h.known id).2 hid, hlt⟩
    obtain ⟨other, hfound⟩ := Option.isSome_iff_exists.1 (isSome_lookup_iff.2 hmem)
    have hlatest := h.latest _ (mem_of_lookup_eq_some hfound)
    rw [hput] at hlatest
    rw [hfound, hlatest]

theorem size (h : Recent capacity history touched c) :
    c.size = min capacity ((puts history).map Prod.fst).dedup.length := by
  have hperm : (recency touched).Perm ((puts history).map Prod.fst).dedup := by
    rw [List.perm_ext_iff_of_nodup (nodup_recency touched) (List.nodup_dedup _)]
    intro id
    rw [mem_recency, List.mem_dedup, h.known id]
  rw [RecentSessions.size, h.size_eq, hperm.length_eq]

/-- What a put evicts stands behind all others that are held. -/
theorem push_fst_eq_some_iff (h : Recent capacity history touched c) {id other : String}
    (data : Payload) :
    (c.push id data).1 = some other ↔
      c.entries.lookup id = none ∧ c.entries.length = capacity ∧
        ∃ others, c.entries.map Prod.fst = others ++ [other] := by
  have hroom := h.room
  have heq := h.capacity_eq
  unfold RecentSessions.push
  by_cases hcapacity : c.capacity = 0
  · have hnone : c.entries = [] := List.length_eq_zero_iff.1 (by omega)
    simp [hcapacity, hnone]
  · simp only [if_neg hcapacity]
    cases hfound : c.entries.lookup id with
    | some found =>
      have hlength := length_without_of_lookup_eq_some h.nodup hfound
      rw [if_pos (by omega)]
      simp
    | none =>
      rw [without_of_not_mem (not_mem_of_lookup_eq_none hfound)]
      by_cases hfull : c.entries.length < c.capacity
      · have hne : c.entries.length ≠ capacity := by omega
        simp [hfull, hne]
      · have hlength : c.entries.length = capacity := by omega
        rw [if_neg hfull, ← List.getLast?_map, List.getLast?_eq_some_iff]
        simp [hlength]

/-- The session that stands behind all others that are held is the one whose last touch is the
oldest. -/
theorem eq_concat_iff (h : Recent capacity history touched c) {other : String} :
    (∃ others, c.entries.map Prod.fst = others ++ [other]) ↔
      other ∈ c.entries.map Prod.fst ∧
        ∀ id ∈ c.entries.map Prod.fst, id ≠ other → id ∈ since other touched := by
  have horder := h.order
  have hnodup := h.nodup
  generalize c.entries.map Prod.fst = held at horder hnodup
  constructor
  · rintro ⟨others, rfl⟩
    refine ⟨List.mem_append_right _ List.mem_cons_self, fun id hid hne => ?_⟩
    obtain ⟨earlier, hearlier⟩ := horder
    rw [List.append_assoc] at hearlier
    rw [← mem_takeWhile_recency, takeWhile_recency_of_eq hearlier.symm]
    simpa [hne] using hid
  · rintro ⟨hother, hall⟩
    obtain ⟨others, rest, rfl⟩ := List.append_of_mem hother
    cases rest with
    | nil => exact ⟨others, rfl⟩
    | cons last rest =>
      -- A session behind it would have to be touched later and earlier at the same time.
      obtain ⟨earlier, hearlier⟩ := horder
      rw [List.append_assoc] at hearlier
      have hne : last ≠ other := by
        rintro rfl
        simp [List.nodup_append] at hnodup
      have hlast := hall last (by simp) hne
      rw [← mem_takeWhile_recency, takeWhile_recency_of_eq hearlier.symm] at hlast
      rw [List.nodup_append] at hnodup
      exact absurd rfl (hnodup.2.2 last hlast last (by simp))

/-- A put takes away the session that it evicts and leaves all others as they are. -/
theorem get_push_of_ne (h : Recent capacity history touched c) {id other : String}
    (data : Payload) (hne : other ≠ id) :
    ((c.push id data).2.get other).1 =
      if (c.push id data).1 = some other then none else (c.get other).1 := by
  have hothers : (without id c.entries).lookup other = c.entries.lookup other := by
    rw [lookup_without, if_neg hne]
  rw [fst_get, fst_get]
  by_cases hcapacity : c.capacity = 0
  · simp [RecentSessions.push, hcapacity]
  · rw [push_snd hcapacity, lookup_cons_eq_if, if_neg hne, ← hothers]
    unfold RecentSessions.push kept
    by_cases hroom : (without id c.entries).length < c.capacity
    · simp [hcapacity, hroom]
    · have hnodup : ((without id c.entries).map Prod.fst).Nodup :=
        h.nodup.sublist (List.filter_sublist.map _)
      simp only [if_neg hcapacity, if_neg hroom]
      exact lookup_dropLast hnodup other

end Recent

/-- What a cache finds after any accesses is told by them alone: a session is found if it was put
and fewer others than there is room for were touched behind its own last touch, and then with what
was put for it last. The cache holds as many sessions as were ever put, up to its capacity. A put
evicts just where it brings a new session to a full cache, and it evicts the session whose last
touch is the oldest; all others stay. Without any room nothing is kept. -/
theorem get_run_eq_some_iff (capacity : Nat) (accesses : List Access) :
    let answers := ((ofCapacity capacity).run accesses).1
    let c := ((ofCapacity capacity).run accesses).2
    let touched := touches accesses answers
    (∀ id data, (c.get id).1 = some data ↔
        lastPut? id accesses = some data ∧ (since id touched).dedup.length < capacity) ∧
      c.size = min capacity ((puts accesses).map Prod.fst).dedup.length ∧
      (∀ id data other, (c.push id data).1 = some other ↔
        (c.get id).1 = none ∧ c.size = capacity ∧ (c.get other).1.isSome ∧
          ∀ third, (c.get third).1.isSome → third ≠ other → third ∈ since other touched) ∧
      (∀ id data other, other ≠ id → ((c.push id data).2.get other).1 =
        if (c.push id data).1 = some other then none else (c.get other).1) ∧
      (capacity = 0 → c.entries = []) := by
  intro answers c touched
  have h : Recent capacity accesses touched c := by
    simpa using (Recent.ofCapacity capacity).run accesses
  refine ⟨fun id data => h.get_eq_some_iff, h.size, fun id data other => ?_,
    fun id data other => h.get_push_of_ne data, fun hcapacity => ?_⟩
  · simp only [fst_get, isSome_lookup_iff]
    rw [h.push_fst_eq_some_iff data, h.eq_concat_iff]
    rfl
  · have hroom := h.room
    rw [h.capacity_eq, hcapacity] at hroom
    exact List.length_eq_zero_iff.1 (Nat.le_zero.1 hroom)

/-- The second session has to go, because the first one was found in between. -/
example :
    let session (name : String) : Payload := [("bu", .string name)]
    let accesses : List Access := [.put "a" (session "srf"), .put "b" (session "rts"), .get "a",
      .put "c" (session "rsi"), .get "b", .get "a"]
    ((ofCapacity 2).run accesses).1 =
      [none, none, some (session "srf"), none, none, some (session "srf")] := by
  rfl

end RecentSessions
end PlaybackRelay

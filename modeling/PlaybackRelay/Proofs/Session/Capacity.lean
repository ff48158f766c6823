import Mathlib
import PlaybackRelay.Proofs.Session.Conservation
import PlaybackRelay.Proofs.Session.Correlation

/-!
Two correlators that differ only in the room of their caches. A session that is found and one that
is not found change the order of the two caches in different ways, but the smaller one always holds
a part of the larger one in the same order. Main statement: `run_sublist_of_capacity_le`.
-/
namespace PlaybackRelay

namespace RecentSessions

variable {entries : List (String × Payload)} {id : String}

theorem without_of_not_mem (h : id ∉ entries.map Prod.fst) : without id entries = entries := by
  refine List.filter_eq_self.2 fun entry hentry => ?_
  have hne : entry.1 ≠ id := fun heq => h (heq ▸ List.mem_map_of_mem hentry)
  exact decide_eq_true hne

theorem not_mem_of_lookup_eq_none (h : entries.lookup id = none) : id ∉ entries.map Prod.fst := by
  intro hmem
  obtain ⟨entry, hentry, rfl⟩ := List.mem_map.1 hmem
  have hne := List.lookup_eq_none_iff.1 h entry hentry
  simp at hne

/-- Names do not repeat, so that one entry goes. -/
theorem length_without_of_lookup_eq_some {data : Payload} (hnodup : (entries.map Prod.fst).Nodup)
    (h : entries.lookup id = some data) :
    (without id entries).length + 1 = entries.length := by
  obtain ⟨before, after, rfl, -⟩ := List.lookup_eq_some_iff.1 h
  rw [List.map_append, List.map_cons, List.nodup_append, List.nodup_cons] at hnodup
  obtain ⟨-, ⟨hafter, -⟩, hdisjoint⟩ := hnodup
  have hbefore : id ∉ before.map Prod.fst :=
    fun hmem => hdisjoint id hmem id List.mem_cons_self rfl
  have hsplit : without id (before ++ (id, data) :: after) =
      without id before ++ without id after := by
    simp [without]
  rw [hsplit, without_of_not_mem hbefore, without_of_not_mem hafter, List.length_append,
    List.length_append, List.length_cons]
  omega

/-- An entry of a part is the entry of the whole. -/
theorem lookup_of_sublist {part : List (String × Payload)} {data : Payload}
    (hpart : part.Sublist entries) (hnodup : (entries.map Prod.fst).Nodup)
    (h : part.lookup id = some data) : entries.lookup id = some data := by
  induction hpart with
  | slnil => exact h
  | cons entry hpart ih =>
    obtain ⟨key, other⟩ := entry
    rw [List.map_cons, List.nodup_cons] at hnodup
    have hrest := ih hnodup.2 h
    obtain ⟨before, after, rfl, -⟩ := List.lookup_eq_some_iff.1 hrest
    have hne : id ≠ key := by
      rintro rfl
      exact hnodup.1 (by simp)
    rw [lookup_cons_eq_if, if_neg hne]
    exact hrest
  | cons_cons entry hpart ih =>
    obtain ⟨key, other⟩ := entry
    rw [List.map_cons, List.nodup_cons] at hnodup
    rw [lookup_cons_eq_if] at h ⊢
    by_cases hid : id = key
    · rwa [if_pos hid] at h ⊢
    · rw [if_neg hid] at h ⊢
      exact ih hnodup.2 h

private theorem dropLast_sublist_dropLast {α : Type} {part whole : List α}
    (h : part.Sublist whole) : part.dropLast.Sublist whole.dropLast := by
  have hreverse := (List.reverse_sublist.2 h).tail
  rw [List.tail_reverse, List.tail_reverse] at hreverse
  exact List.reverse_sublist.1 hreverse

/-- One cache is a part of another that has at least as much room, and the same unless it is
full. -/
structure IncludedIn (small large : RecentSessions) : Prop where
  capacity : small.capacity ≤ large.capacity
  entries : small.entries.Sublist large.entries
  nodup : (large.entries.map Prod.fst).Nodup
  room : small.entries.length ≤ small.capacity
  roomLarge : large.entries.length ≤ large.capacity
  same : small.entries.length < small.capacity → small.entries = large.entries

namespace IncludedIn

variable {small large : RecentSessions}

theorem ofCapacity {capacity larger : Nat} (h : capacity ≤ larger) :
    IncludedIn (ofCapacity capacity) (ofCapacity larger) :=
  ⟨h, .slnil, List.nodup_nil, Nat.zero_le _, Nat.zero_le _, fun _ => rfl⟩

theorem nodupSmall (h : IncludedIn small large) : (small.entries.map Prod.fst).Nodup :=
  h.nodup.sublist (h.entries.map _)

theorem without (h : IncludedIn small large) (id : String) :
    (without id small.entries).Sublist (without id large.entries) := h.entries.filter _

/-- The smaller cache is full while the larger one holds something else. -/
theorem full (h : IncludedIn small large) (hne : small.entries ≠ large.entries) :
    small.entries.length = small.capacity := by
  have hroom := h.room
  have hsame := h.same
  by_contra hlength
  exact hne (hsame (by omega))

/-- What is found in the smaller cache is found in the larger one. -/
theorem lookup (h : IncludedIn small large) {id : String} {data : Payload}
    (hfound : small.entries.lookup id = some data) : large.entries.lookup id = some data :=
  lookup_of_sublist h.entries h.nodup hfound

/-- Only one of the two caches may find a session and move it to its front. -/
theorem get (h : IncludedIn small large) (id : String) :
    ((small.get id).1 = none ∨ (small.get id).1 = (large.get id).1) ∧
      IncludedIn (small.get id).2 (large.get id).2 := by
  unfold RecentSessions.get
  cases hsmall : small.entries.lookup id with
  | some data =>
    have hlarge := h.lookup hsmall
    have hlength := length_without_of_lookup_eq_some h.nodupSmall hsmall
    have hlengthLarge := length_without_of_lookup_eq_some h.nodup hlarge
    rw [hlarge]
    refine ⟨Or.inr rfl, h.capacity, (h.without id).cons_cons _, nodup_cons_without data h.nodup,
      ?_, ?_, fun hlt => ?_⟩
    · simpa only [List.length_cons, hlength] using h.room
    · simpa only [List.length_cons, hlengthLarge] using h.roomLarge
    · simp only [List.length_cons, hlength] at hlt
      simp only [h.same hlt]
  | none =>
    refine ⟨Or.inl rfl, ?_⟩
    cases hlarge : large.entries.lookup id with
    | none => exact h
    | some data =>
      have hne : small.entries ≠ large.entries := by
        intro heq
        rw [heq, hlarge] at hsmall
        contradiction
      have hlength := length_without_of_lookup_eq_some h.nodup hlarge
      have hpart := h.without id
      rw [without_of_not_mem (not_mem_of_lookup_eq_none hsmall)] at hpart
      refine ⟨h.capacity, hpart.cons _, nodup_cons_without data h.nodup, h.room, ?_, fun hlt => ?_⟩
      · simpa only [List.length_cons, hlength] using h.roomLarge
      · exact absurd (h.full hne) (Nat.ne_of_lt hlt)

end IncludedIn

/-- The sessions that stay when another one is put beside them. -/
def kept (id : String) (c : RecentSessions) : List (String × Payload) :=
  if (without id c.entries).length < c.capacity then without id c.entries
  else (without id c.entries).dropLast

theorem push_snd {c : RecentSessions} (hcapacity : c.capacity ≠ 0) (id : String) (data : Payload) :
    (c.push id data).2 = { c with entries := (id, data) :: c.kept id } := by
  rw [push, if_neg hcapacity, kept]
  split <;> rfl

theorem push_snd_of_capacity_eq_zero {c : RecentSessions} (hcapacity : c.capacity = 0) (id : String)
    (data : Payload) : (c.push id data).2 = c := by
  rw [push, if_pos hcapacity]

theorem kept_sublist_without (id : String) (c : RecentSessions) :
    (c.kept id).Sublist (without id c.entries) := by
  unfold kept
  split
  · exact List.Sublist.refl _
  · exact List.dropLast_sublist _

theorem length_kept_lt {c : RecentSessions} (hcapacity : c.capacity ≠ 0)
    (hroom : c.entries.length ≤ c.capacity) (id : String) : (c.kept id).length < c.capacity := by
  have hlength : (without id c.entries).length ≤ c.entries.length := List.length_filter_le _ _
  unfold kept
  split
  · assumption
  · rw [List.length_dropLast]
    omega

/-- A cache that still has room has given nothing up. -/
theorem kept_of_room {c : RecentSessions} {id : String}
    (h : (c.kept id).length + 1 < c.capacity) : c.kept id = without id c.entries := by
  unfold kept at h ⊢
  split
  · rfl
  · rename_i hfull
    rw [if_neg hfull, List.length_dropLast] at h
    omega

namespace IncludedIn

variable {small large : RecentSessions}

/-- Where the smaller cache keeps all sessions beside a new one, the larger one does so, too. -/
theorem roomLarge_of_room (h : IncludedIn small large) (id : String)
    (hroom : (RecentSessions.without id small.entries).length < small.capacity) :
    (RecentSessions.without id large.entries).length < large.capacity := by
  have hcapacity := h.capacity
  by_cases heq : small.entries = large.entries
  · rw [← heq]
    omega
  · have hfull := h.full heq
    cases hfound : small.entries.lookup id with
    | none =>
      rw [without_of_not_mem (not_mem_of_lookup_eq_none hfound)] at hroom
      omega
    | some data =>
      have hlength := length_without_of_lookup_eq_some h.nodup (h.lookup hfound)
      have hbound := h.roomLarge
      omega

/-- Where the larger cache gives its last session up, the smaller one holds it in the last place or
not at all, and gives its own last one up as well. -/
theorem kept_sublist (h : IncludedIn small large) (id : String) :
    (small.kept id).Sublist (large.kept id) := by
  have hpart := h.without id
  unfold kept
  by_cases hroom : (RecentSessions.without id small.entries).length < small.capacity
  · rw [if_pos hroom, if_pos (h.roomLarge_of_room id hroom)]
    exact hpart
  · rw [if_neg hroom]
    split
    · exact (List.dropLast_sublist _).trans hpart
    · exact dropLast_sublist_dropLast hpart

/-- A smaller cache that still has room beside a new session holds all that the larger one holds. -/
theorem kept_eq_of_room (h : IncludedIn small large) {id : String}
    (hroom : (small.kept id).length + 1 < small.capacity) : small.kept id = large.kept id := by
  have hkept := kept_of_room hroom
  rw [hkept] at hroom
  have heq : small.entries = large.entries := by
    by_contra hne
    have hfull := h.full hne
    cases hfound : small.entries.lookup id with
    | none =>
      rw [without_of_not_mem (not_mem_of_lookup_eq_none hfound)] at hroom
      omega
    | some data =>
      have hone := length_without_of_lookup_eq_some h.nodupSmall hfound
      omega
  have hroomLarge := h.roomLarge_of_room id (by omega)
  rw [hkept, heq, RecentSessions.kept, if_pos hroomLarge]

theorem push (h : IncludedIn small large) (id : String) (data : Payload) :
    IncludedIn (small.push id data).2 (large.push id data).2 := by
  have hcapacity := h.capacity
  by_cases hlarge : large.capacity = 0
  · have hsmall : small.capacity = 0 := by omega
    rwa [push_snd_of_capacity_eq_zero hsmall, push_snd_of_capacity_eq_zero hlarge]
  have hnodup : (((id, data) :: large.kept id).map Prod.fst).Nodup :=
    (nodup_cons_without data h.nodup).sublist
      (((kept_sublist_without id large).cons_cons (id, data)).map Prod.fst)
  have hroomLarge := length_kept_lt hlarge h.roomLarge id
  rw [push_snd hlarge]
  by_cases hsmall : small.capacity = 0
  · have hroom := h.room
    have hnone : small.entries = [] := List.length_eq_zero_iff.1 (by omega)
    rw [push_snd_of_capacity_eq_zero hsmall]
    exact ⟨hcapacity, hnone ▸ List.nil_sublist _, hnodup, hroom, hroomLarge,
      fun hlt => absurd hlt (by omega)⟩
  · have hroom := length_kept_lt hsmall h.room id
    rw [push_snd hsmall]
    refine ⟨hcapacity, (h.kept_sublist id).cons_cons _, hnodup, hroom, hroomLarge, fun hlt => ?_⟩
    exact congrArg ((id, data) :: ·) (h.kept_eq_of_room hlt)

end IncludedIn
end RecentSessions

namespace Correlator

open RecentSessions (IncludedIn)

/-- The session found for an event is none, or the one that is found elsewhere. -/
def FindsNoMore (x y : Event × Option Payload) : Prop := x.1 = y.1 ∧ (x.2 = none ∨ x.2 = y.2)

theorem withSession?_sublist {found foundLarge : List (Event × Option Payload)}
    (h : List.Forall₂ FindsNoMore found foundLarge) :
    (found.filterMap withSession?).Sublist (foundLarge.filterMap withSession?) := by
  induction h with
  | nil => exact .slnil
  | @cons x y found foundLarge hxy _ ih =>
    obtain ⟨e, session⟩ := x
    obtain ⟨e', session'⟩ := y
    obtain ⟨rfl, hsession⟩ : e = e' ∧ (session = none ∨ session = session') := hxy
    cases session' with
    | none =>
      obtain rfl : session = none := by simpa using hsession
      simpa [List.filterMap_cons] using ih
    | some data =>
      rcases hsession with rfl | rfl
      · simpa [List.filterMap_cons] using ih.cons { e with session := some data }
      · simpa [List.filterMap_cons] using ih

theorem missing_sublist {found foundLarge : List (Event × Option Payload)}
    (h : List.Forall₂ FindsNoMore found foundLarge) :
    ((foundLarge.filter (·.2.isNone)).map Prod.fst).Sublist
      ((found.filter (·.2.isNone)).map Prod.fst) := by
  induction h with
  | nil => exact .slnil
  | @cons x y found foundLarge hxy _ ih =>
    obtain ⟨e, session⟩ := x
    obtain ⟨e', session'⟩ := y
    obtain ⟨rfl, hsession⟩ : e = e' ∧ (session = none ∨ session = session') := hxy
    cases session' with
    | none =>
      obtain rfl : session = none := by simpa using hsession
      simpa using ih
    | some data =>
      rcases hsession with rfl | rfl
      · simpa using ih.cons e
      · simpa using ih

private theorem foldl_putStart_includedIn {small large : RecentSessions}
    (h : IncludedIn small large) (starts : List Event) :
    IncludedIn (starts.foldl putStart small) (starts.foldl putStart large) := by
  induction starts generalizing small large with
  | nil => exact h
  | cons e starts ih => exact ih (h.push e.sessionId e.data)

private theorem lookups_includedIn {small large : RecentSessions} (h : IncludedIn small large)
    (events : List Event) :
    List.Forall₂ FindsNoMore (lookups events small).1 (lookups events large).1 ∧
      IncludedIn (lookups events small).2 (lookups events large).2 := by
  induction events generalizing small large with
  | nil => exact ⟨.nil, h⟩
  | cons e events ih =>
    obtain ⟨hfound, hcache⟩ := h.get e.sessionId
    obtain ⟨hrest, hend⟩ := ih hcache
    exact ⟨.cons ⟨rfl, hfound⟩ hrest, hend⟩

/-- Two correlators with the same pending events, one with less room in its cache. -/
structure Narrower (c d : Correlator RecentSessions) : Prop where
  cache : IncludedIn c.cache d.cache
  batchSize : c.batchSize = d.batchSize
  pending : c.pending = d.pending

namespace Narrower

variable {c d : Correlator RecentSessions}

theorem found (h : Narrower c d) :
    List.Forall₂ FindsNoMore c.found.1 d.found.1 ∧ IncludedIn c.found.2 d.found.2 := by
  unfold Correlator.found
  rw [h.pending]
  exact lookups_includedIn (foldl_putStart_includedIn h.cache _) _

theorem resolved (h : Narrower c d) : c.resolved.Sublist d.resolved := by
  unfold Correlator.resolved
  rw [h.pending]
  exact (List.Sublist.refl _).append (withSession?_sublist h.found.1)

theorem unresolved (h : Narrower c d) : d.unresolved.Sublist c.unresolved :=
  missing_sublist h.found.1

theorem add (h : Narrower c d) (x : Call) : Narrower (c.add x) (d.add x) :=
  ⟨h.cache, h.batchSize, congrArg (· ++ x.pushed) h.pending⟩

theorem due_eq (h : Narrower c d) (x : Call) : c.due x = d.due x := by
  cases x with
  | push e => simp only [due, h.batchSize, h.pending]
  | flush => rfl

theorem dropped (h : Narrower c d) (x : Call) : (d.dropped x).Sublist (c.dropped x) := by
  unfold Correlator.dropped
  rw [h.due_eq x]
  split
  · exact (h.add x).unresolved
  · exact List.Sublist.refl _

/-- A call keeps the two alike and yields a part of the batch that the one with more room yields. -/
theorem call (h : Narrower c d) (s t : Stats) (x : Call) :
    ((c.call s x).1.getD []).Sublist ((d.call t x).1.getD []) ∧
      Narrower (c.call s x).2.1 (d.call t x).2.1 := by
  have hadd := h.add x
  have hbatch (events : List Event) : (toBatch events).getD [] = events := by
    cases events <;> rfl
  rw [call_eq, call_eq, h.due_eq x]
  split
  · rw [flush_eq, flush_eq, hbatch, hbatch]
    exact ⟨hadd.resolved, hadd.found.2, h.batchSize, rfl⟩
  · exact ⟨List.Sublist.refl _, hadd⟩

theorem run (h : Narrower c d) (s t : Stats) (calls : List Call) :
    List.Forall₂ (fun batch larger => (batch.getD []).Sublist (larger.getD []))
      (c.run s calls).1 (d.run t calls).1 := by
  induction calls generalizing c d s t with
  | nil => exact .nil
  | cons x calls ih =>
    obtain ⟨hbatch, hnext⟩ := h.call s t x
    exact .cons hbatch (ih hnext _ _)

theorem droppedBy (h : Narrower c d) (calls : List Call) :
    (d.droppedBy calls).Sublist (c.droppedBy calls) := by
  induction calls generalizing c d with
  | nil => exact .slnil
  | cons x calls ih => exact (h.dropped x).append (ih (h.call .empty .empty x).2)

end Narrower

/-- What some calls drop is counted. -/
theorem unresolved_run {σ : Type} [SessionCache σ] (c : Correlator σ) (s : Stats)
    (calls : List Call) :
    (c.run s calls).2.2.counts.get .unresolved =
      s.counts.get .unresolved + UInt64.ofNat (c.droppedBy calls).length :=
  get_counts_run c s calls (by decide)

/-- A cache with more room loses no event: after each call, the batch of a correlator with less room
is a part of the other one's batch, with the same sessions attached, and what the correlator with
more room has dropped, the other one has dropped as well. -/
theorem run_sublist_of_capacity_le {capacity larger : Nat} (h : capacity ≤ larger)
    (batchSize : Nat) (s : Stats) (calls : List Call) :
    let small := ofCache (RecentSessions.ofCapacity capacity) batchSize
    let large := ofCache (RecentSessions.ofCapacity larger) batchSize
    let unresolved := fun c : Correlator RecentSessions =>
      (c.run s calls).2.2.counts.get .unresolved
    List.Forall₂ (fun batch batchLarge => (batch.getD []).Sublist (batchLarge.getD []))
        (small.run s calls).1 (large.run s calls).1 ∧
      (large.droppedBy calls).Sublist (small.droppedBy calls) ∧
      unresolved small =
        s.counts.get .unresolved + UInt64.ofNat (small.droppedBy calls).length ∧
      unresolved large =
        s.counts.get .unresolved + UInt64.ofNat (large.droppedBy calls).length ∧
      ((s.counts.get .unresolved).toNat + (small.droppedBy calls).length < 2 ^ 64 →
        unresolved large ≤ unresolved small) := by
  intro small large unresolved
  have hnarrower : Narrower small large := ⟨.ofCapacity h, rfl, rfl⟩
  have hdropped := hnarrower.droppedBy calls
  have hsmall := unresolved_run small s calls
  have hlarge := unresolved_run large s calls
  refine ⟨hnarrower.run s s calls, hdropped, hsmall, hlarge, fun hbound => ?_⟩
  have hlength := hdropped.length_le
  rw [UInt64.le_iff_toNat_le]
  simp only [unresolved, hsmall, hlarge, UInt64.toNat_add, UInt64.toNat_ofNat']
  rw [Nat.mod_eq_of_lt (a := (small.droppedBy calls).length) (by omega),
    Nat.mod_eq_of_lt (a := (large.droppedBy calls).length) (by omega), Nat.mod_eq_of_lt (by omega),
    Nat.mod_eq_of_lt (by omega)]
  omega

/-- With room for one session the first heartbeat is lost. With room for two it is not, and its
session then outlives one that started later. -/
theorem run_sublist_of_one_le_two :
    let start : Event := ⟨"a", "START", 1, none, 1, [("bu", .string "srf")], none⟩
    let heartbeat : Event := ⟨"a", "HEARTBEAT", 2, none, 1, [], none⟩
    let calls : List Call := [.push start, .push { start with sessionId := "b" }, .push heartbeat,
      .push { start with sessionId := "c" }, .push { heartbeat with sessionId := "b" }]
    let session : Option Payload := some [("bu", .string "srf")]
    let started : Event := { start with data := [], session }
    let small := ofCache (RecentSessions.ofCapacity 1) 1
    let large := ofCache (RecentSessions.ofCapacity 2) 1
    1 ≤ 2 ∧
      List.Forall₂ (fun batch batchLarge => (batch.getD []).Sublist (batchLarge.getD []))
        (small.run .empty calls).1 (large.run .empty calls).1 ∧
      (small.run .empty calls).1 = [some [started], some [{ started with sessionId := "b" }], none,
        some [{ started with sessionId := "c" }], none] ∧
      (large.run .empty calls).1 = [some [started], some [{ started with sessionId := "b" }],
        some [{ heartbeat with session }], some [{ started with sessionId := "c" }], none] :=
  ⟨by decide, (run_sublist_of_capacity_le (by decide) 1 .empty _).1, by rfl, by rfl⟩

end Correlator
end PlaybackRelay

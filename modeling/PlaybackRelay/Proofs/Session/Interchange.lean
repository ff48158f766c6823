import Mathlib.Data.Finmap
import PlaybackRelay.Proofs.Session.Recency

/-!
Caches in place of each other. All that matters of a cache is which sessions it holds, as long as
it never has to hold more than there is room for, or has no room at all. Main statement:
`run_eq_of_retains`.
-/
namespace PlaybackRelay

/-- Sessions by their identifiers, each with the payload of its start. -/
abbrev Sessions := Finmap fun _ : String => Payload

/-- What is relied on of a cache whose entries do not run out of time: `holds cache sessions` says
that it holds just these sessions. A session that is put takes the place of the one with the same
identifier. Up to its capacity the cache gives nothing up, and one without any capacity stores
nothing; what it does when it is overfull is left open. -/
structure Retains {σ : Type} [SessionCache σ] (capacity : Nat) (holds : σ → Sessions → Prop) :
    Prop where
  get : ∀ {cache sessions}, holds cache sessions → sessions.keys.card ≤ capacity → ∀ id,
    (SessionCache.get id cache).1 = sessions.lookup id ∧ holds (SessionCache.get id cache).2 sessions
  put : ∀ {cache sessions}, holds cache sessions → ∀ id data,
    (sessions.insert id data).keys.card ≤ capacity →
    holds (SessionCache.put id data cache) (sessions.insert id data)
  put_of_zero : capacity = 0 → ∀ {cache sessions}, holds cache sessions → ∀ id data,
    holds (SessionCache.put id data cache) sessions
  size : ∀ {cache sessions}, holds cache sessions → sessions.keys.card ≤ capacity →
    SessionCache.size cache = sessions.keys.card

section Entries

open RecentSessions (without)

/-- Entries under different names that list some sessions in any order. -/
structure Lists (entries : List (String × Payload)) (sessions : Sessions) : Prop where
  nodup : (entries.map Prod.fst).Nodup
  lookup : ∀ id, entries.lookup id = sessions.lookup id

namespace Lists

variable {entries : List (String × Payload)} {sessions : Sessions}

theorem empty : Lists [] ∅ := ⟨List.nodup_nil, fun _ => rfl⟩

theorem length_eq (h : Lists entries sessions) : entries.length = sessions.keys.card := by
  have hkeys : sessions.keys = (entries.map Prod.fst).toFinset := by
    ext id
    rw [Finmap.mem_keys, ← Finmap.lookup_isSome, ← h.lookup, List.mem_toFinset,
      RecentSessions.isSome_lookup_iff]
  rw [hkeys, List.toFinset_card_of_nodup h.nodup, List.length_map]

theorem insert (h : Lists entries sessions) (id : String) (data : Payload) :
    Lists ((id, data) :: without id entries) (sessions.insert id data) := by
  refine ⟨RecentSessions.nodup_cons_without data h.nodup, fun other => ?_⟩
  rw [RecentSessions.lookup_cons_without]
  split
  · rename_i hid
    rw [hid, Finmap.lookup_insert]
  · rename_i hid
    rw [Finmap.lookup_insert_of_ne _ hid, h.lookup]

/-- Moving an entry to the front changes the order alone. -/
theorem touch (h : Lists entries sessions) {id : String} {data : Payload}
    (hfound : entries.lookup id = some data) :
    Lists ((id, data) :: without id entries) sessions := by
  have hsame : sessions.insert id data = sessions := by
    refine Finmap.ext_lookup fun other => ?_
    by_cases hid : other = id
    · rw [hid, Finmap.lookup_insert, ← h.lookup, hfound]
    · rw [Finmap.lookup_insert_of_ne _ hid]
  exact hsame ▸ h.insert id data

end Lists

/-- Giving up what was not touched for longest does not happen while there is room. -/
theorem RecentSessions.retains (capacity : Nat) :
    Retains capacity fun (c : RecentSessions) sessions =>
      c.capacity = capacity ∧ Lists c.entries sessions where
  get := by
    intro c sessions ⟨hcapacity, hlists⟩ _ id
    have hfound : (c.get id).1 = sessions.lookup id := by rw [fst_get, hlists.lookup]
    refine ⟨hfound, ?_⟩
    simp only [SessionCache.get, RecentSessions.get]
    cases hentry : c.entries.lookup id with
    | none => exact ⟨hcapacity, hlists⟩
    | some data => exact ⟨hcapacity, hlists.touch hentry⟩
  put := by
    intro c sessions ⟨hcapacity, hlists⟩ id data hroom
    have hinsert := hlists.insert id data
    have hlength := hinsert.length_eq
    rw [List.length_cons] at hlength
    have hnonzero : c.capacity ≠ 0 := by omega
    have hothers : (without id c.entries).length < c.capacity := by omega
    simp only [SessionCache.put, push_snd hnonzero, kept, if_pos hothers]
    exact ⟨hcapacity, hinsert⟩
  put_of_zero := by
    intro hzero c sessions ⟨hcapacity, hlists⟩ id data
    simp only [SessionCache.put, push_snd_of_capacity_eq_zero (hcapacity.trans hzero)]
    exact ⟨hcapacity, hlists⟩
  size := fun ⟨_, hlists⟩ _ => hlists.length_eq

theorem IdleSessions.retains (capacity : Nat) :
    Retains capacity fun (c : IdleSessions) sessions =>
      c.capacity = capacity ∧ Lists c.entries sessions where
  get := fun ⟨hcapacity, hlists⟩ _ id => ⟨hlists.lookup id, hcapacity, hlists⟩
  put := by
    intro c sessions ⟨hcapacity, hlists⟩ id data hroom
    have hinsert := hlists.insert id data
    have hlength := hinsert.length_eq
    rw [List.length_cons] at hlength
    have hothers : (without id c.entries).length < c.capacity := by omega
    have hput : SessionCache.put id data c =
        { c with entries := (id, data) :: without id c.entries } := if_pos hothers
    rw [hput]
    exact ⟨hcapacity, hinsert⟩
  put_of_zero := by
    intro hzero c sessions ⟨hcapacity, hlists⟩ id data
    have hfull : ¬ (without id c.entries).length < c.capacity := by omega
    have hput : SessionCache.put id data c = c := if_neg hfull
    rw [hput]
    exact ⟨hcapacity, hlists⟩
  size := fun ⟨_, hlists⟩ _ => hlists.length_eq

end Entries

namespace Correlator

variable {σ τ : Type} [SessionCache σ] [SessionCache τ] {capacity : Nat}
variable {holds : σ → Sessions → Prop} {holds' : τ → Sessions → Prop}

/-- Nothing but sessions that there is room for is held, or nothing at all without any room. -/
def Fits (capacity : Nat) (ids : Finset String) (sessions : Sessions) : Prop :=
  sessions.keys ⊆ ids ∧ ids.card ≤ capacity ∨ sessions = ∅ ∧ capacity = 0

theorem Fits.card_le {ids : Finset String} {sessions : Sessions}
    (h : Fits capacity ids sessions) : sessions.keys.card ≤ capacity := by
  rcases h with ⟨hkeys, hids⟩ | ⟨rfl, -⟩
  · exact (Finset.card_le_card hkeys).trans hids
  · exact Nat.zero_le _

theorem Fits.insert {ids : Finset String} {sessions : Sessions} (hkeys : sessions.keys ⊆ ids)
    (hids : ids.card ≤ capacity) {id : String} (hid : id ∈ ids) (data : Payload) :
    Fits capacity ids (sessions.insert id data) := by
  refine Or.inl ⟨fun other hother => ?_, hids⟩
  rw [Finmap.mem_keys, Finmap.mem_insert] at hother
  rcases hother with rfl | hother
  · exact hid
  · exact hkeys (Finmap.mem_keys.2 hother)

/-- Two caches that hold the same sessions. -/
def HoldSame (capacity : Nat) (ids : Finset String) (holds : σ → Sessions → Prop)
    (holds' : τ → Sessions → Prop) (cache : σ) (other : τ) : Prop :=
  ∃ sessions, Fits capacity ids sessions ∧ holds cache sessions ∧ holds' other sessions

section Caches

variable (h : Retains capacity holds) (h' : Retains capacity holds')
variable {ids : Finset String} {cache : σ} {other : τ}
include h h'

private theorem holdSame_get (hsame : HoldSame capacity ids holds holds' cache other)
    (id : String) :
    (SessionCache.get id cache).1 = (SessionCache.get id other).1 ∧
      HoldSame capacity ids holds holds' (SessionCache.get id cache).2
        (SessionCache.get id other).2 := by
  obtain ⟨sessions, hfits, hcache, hother⟩ := hsame
  obtain ⟨hfound, hnext⟩ := h.get hcache hfits.card_le id
  obtain ⟨hfound', hnext'⟩ := h'.get hother hfits.card_le id
  exact ⟨hfound.trans hfound'.symm, sessions, hfits, hnext, hnext'⟩

private theorem holdSame_put (hsame : HoldSame capacity ids holds holds' cache other) {id : String}
    (hid : id ∈ ids) (data : Payload) :
    HoldSame capacity ids holds holds' (SessionCache.put id data cache)
      (SessionCache.put id data other) := by
  obtain ⟨sessions, hfits, hcache, hother⟩ := hsame
  rcases hfits with ⟨hkeys, hids⟩ | ⟨hempty, hzero⟩
  · have hinsert := Fits.insert hkeys hids hid data
    exact ⟨_, hinsert, h.put hcache id data hinsert.card_le, h'.put hother id data hinsert.card_le⟩
  · exact ⟨sessions, Or.inr ⟨hempty, hzero⟩, h.put_of_zero hzero hcache id data,
      h'.put_of_zero hzero hother id data⟩

private theorem holdSame_size (hsame : HoldSame capacity ids holds holds' cache other) :
    SessionCache.size cache = SessionCache.size other := by
  obtain ⟨sessions, hfits, hcache, hother⟩ := hsame
  rw [h.size hcache hfits.card_le, h'.size hother hfits.card_le]

private theorem holdSame_foldl_putStart (hsame : HoldSame capacity ids holds holds' cache other)
    {starts : List Event} (hstarts : ∀ e ∈ starts, e.sessionId ∈ ids) :
    HoldSame capacity ids holds holds' (starts.foldl putStart cache)
      (starts.foldl putStart other) := by
  induction starts generalizing cache other with
  | nil => exact hsame
  | cons e starts ih =>
    obtain ⟨he, hrest⟩ := List.forall_mem_cons.1 hstarts
    exact ih (holdSame_put h h' hsame he e.data) hrest

private theorem holdSame_lookups (hsame : HoldSame capacity ids holds holds' cache other)
    (events : List Event) :
    (lookups events cache).1 = (lookups events other).1 ∧
      HoldSame capacity ids holds holds' (lookups events cache).2 (lookups events other).2 := by
  induction events generalizing cache other with
  | nil => exact ⟨rfl, hsame⟩
  | cons e events ih =>
    obtain ⟨hfound, hnext⟩ := holdSame_get h h' hsame e.sessionId
    obtain ⟨hrest, hend⟩ := ih hnext
    refine ⟨?_, hend⟩
    simp only [lookups, hfound, hrest]

end Caches

/-- Two correlators with the same pending events whose caches hold the same sessions. -/
structure Alike (capacity : Nat) (ids : Finset String) (holds : σ → Sessions → Prop)
    (holds' : τ → Sessions → Prop) (c : Correlator σ) (d : Correlator τ) : Prop where
  cache : HoldSame capacity ids holds holds' c.cache d.cache
  batchSize : c.batchSize = d.batchSize
  pending : c.pending = d.pending

namespace Alike

variable (h : Retains capacity holds) (h' : Retains capacity holds')
variable {ids : Finset String} {c : Correlator σ} {d : Correlator τ}
include h h'

theorem found (halike : Alike capacity ids holds holds' c d)
    (hids : ∀ id ∈ startIds c.pending, id ∈ ids) :
    c.found.1 = d.found.1 ∧ HoldSame capacity ids holds holds' c.found.2 d.found.2 := by
  have hstarts : ∀ e ∈ c.pending.filter Event.isStart, e.sessionId ∈ ids := fun e he =>
    hids _ (List.mem_map_of_mem he)
  have hput := holdSame_foldl_putStart h h' halike.cache hstarts
  unfold Correlator.found
  rw [← halike.pending]
  exact holdSame_lookups h h' hput _

/-- A call yields the same batch and counts the same. -/
theorem call (halike : Alike capacity ids holds holds' c d) (s : Stats) (x : Call)
    (hids : ∀ id ∈ startIds (c.pending ++ x.pushed), id ∈ ids) :
    (c.call s x).1 = (d.call s x).1 ∧ (c.call s x).2.2 = (d.call s x).2.2 ∧
      Alike capacity ids holds holds' (c.call s x).2.1 (d.call s x).2.1 := by
  have hadd : Alike capacity ids holds holds' (c.add x) (d.add x) :=
    ⟨halike.cache, halike.batchSize, congrArg (· ++ x.pushed) halike.pending⟩
  have hdue : c.due x = d.due x := by
    cases x with
    | push e => simp only [due, halike.batchSize, halike.pending]
    | flush => rfl
  obtain ⟨hfound, hcache⟩ := hadd.found h h' hids
  have hresolved : (c.add x).resolved = (d.add x).resolved := by
    rw [resolved, resolved, hadd.pending, hfound]
  rw [call_eq, call_eq, hdue]
  split
  · rw [flush_eq, flush_eq, hresolved, hfound]
    exact ⟨rfl, rfl, hcache, halike.batchSize, rfl⟩
  · exact ⟨rfl, rfl, hadd⟩

theorem run (halike : Alike capacity ids holds holds' c d) (s : Stats) (calls : List Call)
    (hids : ∀ id ∈ startIds (c.pending ++ pushedBy calls), id ∈ ids) :
    (c.run s calls).1 = (d.run s calls).1 ∧ (c.run s calls).2.2 = (d.run s calls).2.2 ∧
      Alike capacity ids holds holds' (c.run s calls).2.1 (d.run s calls).2.1 := by
  induction calls generalizing c d s with
  | nil => exact ⟨rfl, rfl, halike⟩
  | cons x calls ih =>
    have hsplit : ∀ id, id ∈ startIds (c.pending ++ pushedBy (x :: calls)) ↔
        id ∈ startIds (c.pending ++ x.pushed) ∨ id ∈ startIds (pushedBy calls) := by
      intro id
      rw [← List.mem_append, ← startIds_append, List.append_assoc]
      rfl
    obtain ⟨hbatch, hstats, hnext⟩ := halike.call h h' s x fun id hid =>
      hids id ((hsplit id).2 (Or.inl hid))
    -- What is pending after the call was pending or pushed before.
    have hpending : ∀ id ∈ startIds ((c.call s x).2.1.pending ++ pushedBy calls), id ∈ ids := by
      intro id hid
      rw [startIds_append, List.mem_append] at hid
      refine hids id ((hsplit id).2 (hid.imp_left fun hid => ?_))
      obtain ⟨e, he, rfl⟩ := List.mem_map.1 hid
      obtain ⟨hmem, hstart⟩ := List.mem_filter.1 he
      exact List.mem_map_of_mem (List.mem_filter.2 ⟨mem_pending_call hmem, hstart⟩)
    obtain ⟨hbatches, hcounts, hend⟩ := ih hnext (c.call s x).2.2 hpending
    rw [run_cons, run_cons, hbatch, hbatches, hcounts, ← hstats]
    exact ⟨rfl, rfl, hend⟩

end Alike

/-- A cache that gives up what was not touched for longest can stand in for any other one that
gives nothing up while there is room, if there is room for every session that starts or none at
all: after any of the calls, the batches, all that was counted and the size of the cache are the
same. -/
theorem run_eq_of_retains (h : Retains capacity holds) (idle : σ) (hidle : holds idle ∅)
    {calls : List Call}
    (hroom : (startIds (pushedBy calls)).dedup.length ≤ capacity ∨ capacity = 0)
    (batchSize : Nat) (s : Stats) {made : List Call} (hmade : made <+: calls) :
    let recent := (ofCache (RecentSessions.ofCapacity capacity) batchSize).run s made
    let other := (ofCache idle batchSize).run s made
    recent.1 = other.1 ∧ recent.2.2 = other.2.2 ∧
      SessionCache.size recent.2.1.cache = SessionCache.size other.2.1.cache ∧
      SessionCache.isEmpty recent.2.1.cache = SessionCache.isEmpty other.2.1.cache := by
  intro recent other
  have hrecent := RecentSessions.retains capacity
  have hfits : Fits capacity (startIds (pushedBy calls)).toFinset ∅ := by
    rcases hroom with hroom | hzero
    · exact Or.inl ⟨by simp, by rwa [List.card_toFinset]⟩
    · exact Or.inr ⟨rfl, hzero⟩
  have hstart : Alike capacity (startIds (pushedBy calls)).toFinset
      (fun (c : RecentSessions) sessions => c.capacity = capacity ∧ Lists c.entries sessions) holds
      (ofCache (RecentSessions.ofCapacity capacity) batchSize) (ofCache idle batchSize) :=
    ⟨⟨∅, hfits, ⟨rfl, .empty⟩, hidle⟩, rfl, rfl⟩
  have hids : ∀ id ∈ startIds ([] ++ pushedBy made), id ∈ (startIds (pushedBy calls)).toFinset := by
    obtain ⟨later, rfl⟩ := hmade
    intro id hid
    rw [List.mem_toFinset, pushedBy, List.flatMap_append, startIds_append]
    exact List.mem_append_left _ hid
  obtain ⟨hbatches, hstats, hend⟩ := hstart.run hrecent h s made hids
  have hsize := holdSame_size hrecent h hend.cache
  exact ⟨hbatches, hstats, hsize, by rw [SessionCache.isEmpty, SessionCache.isEmpty, hsize]⟩

/-- Both sessions start again while the caches are full, and in between the older one is looked
up. -/
theorem run_eq_of_retains_full :
    let start : Event := ⟨"a", "START", 1, none, 1, [("bu", .string "srf")], none⟩
    let other : Event := ⟨"b", "START", 1, none, 1, [("bu", .string "rts")], none⟩
    let again : Event := { start with data := [("bu", .string "rsi")] }
    let heartbeat : Event := ⟨"a", "HEARTBEAT", 2, none, 1, [], none⟩
    let calls : List Call := [.push start, .push other, .push heartbeat, .push again, .push other,
      .push heartbeat]
    let recent := ofCache (RecentSessions.ofCapacity 2) 1
    let idle := ofCache (IdleSessions.ofCapacity 2) 1
    (startIds (pushedBy calls)).dedup.length ≤ 2 ∧
      (recent.run .empty calls).1 = (idle.run .empty calls).1 ∧
      (recent.run .empty calls).2.2 = (idle.run .empty calls).2.2 ∧
      (recent.run .empty calls).1.getLast? =
        some (some [{ heartbeat with session := some again.data }]) ∧
      SessionCache.size (recent.run .empty calls).2.1.cache = 2 :=
  have hrun := run_eq_of_retains (IdleSessions.retains 2) (IdleSessions.ofCapacity 2)
    ⟨rfl, .empty⟩ (Or.inl (by decide)) 1 .empty (List.prefix_refl _)
  ⟨by decide, hrun.1, hrun.2.1, by rfl, by rfl⟩

end Correlator
end PlaybackRelay

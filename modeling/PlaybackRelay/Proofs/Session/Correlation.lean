import Mathlib.Data.List.Dedup
import Mathlib.Data.List.Perm.Subperm
import PlaybackRelay.Proofs.Session.Calls

/-!
The batches of a correlator whose cache has room for every session that starts. Each batch is told
by the events before it and by its own, without any cache. Main statement: `run_eq_correlations`.
-/
namespace PlaybackRelay

/-- The last event of a history that starts a session. -/
def lastStart? (id : String) (history : List Event) : Option Event :=
  history.reverse.find? fun e => e.isStart && e.sessionId = id

theorem lastStart?_append (id : String) (first second : List Event) :
    lastStart? id (first ++ second) = (lastStart? id second).or (lastStart? id first) := by
  rw [lastStart?, List.reverse_append, List.find?_append]
  rfl

/-- Only the events that start a session count. -/
theorem lastStart?_filter (id : String) (history : List Event) :
    lastStart? id (history.filter Event.isStart) = lastStart? id history := by
  rw [lastStart?, ← List.filter_reverse, List.find?_filter, lastStart?]
  congr 1
  funext e
  cases e.isStart <;> simp

private theorem lastStart?_concat {e : Event} (he : e.isStart) (id : String)
    (history : List Event) :
    lastStart? id (history ++ [e]) =
      if id = e.sessionId then some e else lastStart? id history := by
  rw [lastStart?_append]
  by_cases hid : id = e.sessionId
  · simp [lastStart?, he, hid]
  · have hne : e.sessionId ≠ id := Ne.symm hid
    simp [lastStart?, hid, hne]

namespace RecentSessions

/-- A cache with room for all sessions, which holds the payload of the last start of each. -/
structure Remembers (ids : List String) (history : List Event) (c : RecentSessions) : Prop where
  lookup : ∀ id, c.entries.lookup id = (lastStart? id history).map Event.data
  nodup : (c.entries.map Prod.fst).Nodup
  known : c.entries.map Prod.fst ⊆ ids
  room : ids.dedup.length ≤ c.capacity

theorem remembers_ofCapacity {ids : List String} {capacity : Nat}
    (h : ids.dedup.length ≤ capacity) : Remembers ids [] (ofCapacity capacity) :=
  ⟨fun _ => rfl, List.nodup_nil, List.nil_subset _, h⟩

theorem lookup_cons_eq_if (id key : String) (data : Payload) (entries : List (String × Payload)) :
    ((key, data) :: entries).lookup id = if id = key then some data else entries.lookup id := by
  by_cases h : id = key
  · simp [h]
  · rw [List.lookup_cons, beq_false_of_ne h, if_neg h]

theorem lookup_without (id other : String) (entries : List (String × Payload)) :
    (without id entries).lookup other = if other = id then none else entries.lookup other := by
  induction entries with
  | nil => simp [without]
  | cons entry entries ih =>
    obtain ⟨key, data⟩ := entry
    by_cases hkey : key = id
    · have hskip : without id ((key, data) :: entries) = without id entries := by
        simp [without, hkey]
      rw [hskip, ih, lookup_cons_eq_if, hkey]
      split <;> rfl
    · have hkeep : without id ((key, data) :: entries) = (key, data) :: without id entries := by
        simp [without, hkey]
      rw [hkeep, lookup_cons_eq_if, lookup_cons_eq_if, ih]
      by_cases hother : other = key
      · have hne : other ≠ id := hother ▸ hkey
        rw [if_pos hother, if_neg hne, if_pos hother]
      · rw [if_neg hother, if_neg hother]

theorem map_fst_without (id : String) (entries : List (String × Payload)) :
    (without id entries).map Prod.fst = (entries.map Prod.fst).filter (· ≠ id) := by
  simp only [without, List.filter_map]
  rfl

/-- Putting a session in front of all others. -/
theorem lookup_cons_without (id other : String) (data : Payload)
    (entries : List (String × Payload)) :
    ((id, data) :: without id entries).lookup other =
      if other = id then some data else entries.lookup other := by
  rw [lookup_cons_eq_if]
  by_cases hother : other = id
  · rw [if_pos hother, if_pos hother]
  · rw [if_neg hother, if_neg hother, lookup_without, if_neg hother]

theorem nodup_cons_without {id : String} {entries : List (String × Payload)} (data : Payload)
    (h : (entries.map Prod.fst).Nodup) :
    (((id, data) :: without id entries).map Prod.fst).Nodup := by
  rw [List.map_cons, map_fst_without, List.nodup_cons]
  exact ⟨by simp, h.filter _⟩

theorem known_cons_without {ids : List String} {id : String} {entries : List (String × Payload)}
    (data : Payload) (hid : id ∈ ids) (h : entries.map Prod.fst ⊆ ids) :
    ((id, data) :: without id entries).map Prod.fst ⊆ ids := by
  rw [List.map_cons, map_fst_without]
  exact List.cons_subset.2 ⟨hid, fun other hother => h (List.mem_of_mem_filter hother)⟩

/-- A cache that has room for every session never gives one up. -/
theorem Remembers.push_eq {ids : List String} {history : List Event} {c : RecentSessions}
    (h : Remembers ids history c) {id : String} (hid : id ∈ ids) (data : Payload) :
    (c.push id data).2 = { c with entries := (id, data) :: without id c.entries } := by
  have hsub : ((id, data) :: without id c.entries).map Prod.fst ⊆ ids.dedup :=
    fun other hother => List.mem_dedup.2 (known_cons_without data hid h.known hother)
  have hlength := (List.Nodup.subperm (nodup_cons_without data h.nodup) hsub).length_le
  have hroom := h.room
  simp only [List.length_map, List.length_cons] at hlength
  have hcapacity : c.capacity ≠ 0 := by omega
  have hothers : (without id c.entries).length < c.capacity := by omega
  simp [push, hcapacity, hothers]

theorem Remembers.push {ids : List String} {history : List Event} {c : RecentSessions}
    (h : Remembers ids history c) {e : Event} (he : e.isStart) (hid : e.sessionId ∈ ids) :
    Remembers ids (history ++ [e]) (c.push e.sessionId e.data).2 := by
  rw [h.push_eq hid]
  refine ⟨fun id => ?_, nodup_cons_without _ h.nodup, known_cons_without _ hid h.known, h.room⟩
  rw [lookup_cons_without, lastStart?_concat he, h.lookup]
  split <;> rfl

/-- Finding a session changes the order of the entries alone. -/
theorem Remembers.get {ids : List String} {history : List Event} {c : RecentSessions}
    (h : Remembers ids history c) (id : String) :
    (c.get id).1 = (lastStart? id history).map Event.data ∧ Remembers ids history (c.get id).2 := by
  have hlookup := h.lookup id
  unfold RecentSessions.get
  cases hentry : c.entries.lookup id with
  | none => exact ⟨hlookup ▸ hentry.symm, h⟩
  | some data =>
    refine ⟨hlookup ▸ hentry.symm, fun other => ?_, nodup_cons_without _ h.nodup, ?_, h.room⟩
    · rw [lookup_cons_without, ← h.lookup other]
      split
      · subst id
        exact hentry.symm
      · rfl
    · refine known_cons_without _ (h.known ?_) h.known
      obtain ⟨before, after, hentries, -⟩ := List.lookup_eq_some_iff.1 hentry
      simp [hentries]

end RecentSessions

namespace Correlator

open RecentSessions (Remembers)

/-- What a segment of events yields if the history holds all events up to its end. -/
def correlate (history segment : List Event) : List Event :=
  (segment.filter Event.isStart).map (fun e => { e with data := [], session := some e.data }) ++
    (segment.filter (!·.isStart)).filterMap fun e =>
      (lastStart? e.sessionId history).map fun start => { e with session := some start.data }

/-- What some calls yield: `earlier` holds the events of all segments that have ended, and `segment`
those that were pushed since. -/
def correlations (batchSize : Nat) :
    List Event → List Event → List Call → List (Option (List Event))
  | _, _, [] => []
  | earlier, segment, .push e :: calls =>
    let segment := segment ++ [e]
    if batchSize ≤ segment.length then
      toBatch (correlate (earlier ++ segment) segment) ::
        correlations batchSize (earlier ++ segment) [] calls
    else none :: correlations batchSize earlier segment calls
  | earlier, segment, .flush :: calls =>
    toBatch (correlate (earlier ++ segment) segment) ::
      correlations batchSize (earlier ++ segment) [] calls

/-- The sessions that some events start. -/
def startIds (events : List Event) : List String :=
  (events.filter Event.isStart).map Event.sessionId

theorem startIds_append (first second : List Event) :
    startIds (first ++ second) = startIds first ++ startIds second := by
  simp [startIds]

variable {ids : List String} {history : List Event}

private theorem remembers_foldl_putStart {cache : RecentSessions} (h : Remembers ids history cache)
    (starts : List Event) (hstarts : ∀ e ∈ starts, e.isStart ∧ e.sessionId ∈ ids) :
    Remembers ids (history ++ starts) (starts.foldl putStart cache) := by
  induction starts generalizing cache history with
  | nil => simpa using h
  | cons e starts ih =>
    obtain ⟨he, hrest⟩ := List.forall_mem_cons.1 hstarts
    have hnext := ih (h.push he.1 he.2) hrest
    rw [List.append_assoc] at hnext
    exact hnext

private theorem lookups_eq {cache : RecentSessions} (h : Remembers ids history cache)
    (events : List Event) :
    (lookups events cache).1 =
        events.map (fun e => (e, (lastStart? e.sessionId history).map Event.data)) ∧
      Remembers ids history (lookups events cache).2 := by
  induction events generalizing cache with
  | nil => exact ⟨rfl, h⟩
  | cons e events ih =>
    obtain ⟨hfound, hcache⟩ := h.get e.sessionId
    obtain ⟨hrest, hend⟩ := ih hcache
    refine ⟨?_, hend⟩
    rw [List.map_cons, ← hrest, ← hfound]
    rfl

/-- The starts of a batch come first into the cache, and the history tells no difference. -/
theorem resolved_eq {c : Correlator RecentSessions} {earlier : List Event}
    (h : Remembers ids earlier c.cache) (hids : startIds c.pending ⊆ ids) :
    c.resolved = correlate (earlier ++ c.pending) c.pending ∧
      Remembers ids (earlier ++ c.pending) c.found.2 := by
  have hstarts : ∀ e ∈ c.pending.filter Event.isStart, e.isStart ∧ e.sessionId ∈ ids :=
    fun e he => ⟨(List.mem_filter.1 he).2, hids (List.mem_map_of_mem he)⟩
  have hlast : ∀ id, lastStart? id (earlier ++ c.pending.filter Event.isStart) =
      lastStart? id (earlier ++ c.pending) := by
    intro id
    rw [lastStart?_append, lastStart?_append, lastStart?_filter]
  obtain ⟨hfound, hcache⟩ := lookups_eq (remembers_foldl_putStart h _ hstarts)
    (c.pending.filter (!·.isStart))
  refine ⟨?_, fun id => ?_, hcache.nodup, hcache.known, hcache.room⟩
  · have hwith : ∀ e : Event, withSession?
        (e, (lastStart? e.sessionId (earlier ++ c.pending.filter Event.isStart)).map Event.data) =
        (lastStart? e.sessionId (earlier ++ c.pending)).map
          fun start => { e with session := some start.data } := by
      intro e
      rw [hlast]
      cases lastStart? e.sessionId (earlier ++ c.pending) <;> rfl
    rw [resolved, found, hfound, List.filterMap_map, correlate]
    congr 2
    funext e
    exact hwith e
  · rw [← hlast]
    exact hcache.lookup id

private theorem run_cons_of_due {c : Correlator RecentSessions} {earlier : List Event}
    (h : Remembers ids earlier c.cache) (s : Stats) {x : Call} (hx : c.due x)
    (hids : startIds (c.add x).pending ⊆ ids) (calls : List Call) :
    ∃ (next : Correlator RecentSessions) (t : Stats),
      c.run s (x :: calls) =
        (toBatch (correlate (earlier ++ (c.add x).pending) (c.add x).pending) ::
          (next.run t calls).1, (next.run t calls).2) ∧
      next.batchSize = c.batchSize ∧ next.pending = [] ∧
      Remembers ids (earlier ++ (c.add x).pending) next.cache := by
  have hadd : Remembers ids earlier (c.add x).cache := h
  obtain ⟨hresolved, hcache⟩ := resolved_eq hadd hids
  refine ⟨((c.add x).flush (x.record s)).2.1, ((c.add x).flush (x.record s)).2.2, ?_, ?_⟩
  · rw [run_cons, call_eq, if_pos hx, ← hresolved]
    rw [flush_eq]
  · rw [flush_eq]
    exact ⟨rfl, rfl, hcache⟩

theorem run_eq_of_remembers {c : Correlator RecentSessions} {earlier : List Event}
    (h : Remembers ids earlier c.cache) (s : Stats) (calls : List Call)
    (hids : startIds (c.pending ++ pushedBy calls) ⊆ ids) :
    (c.run s calls).1 = correlations c.batchSize earlier c.pending calls := by
  induction calls generalizing c earlier s with
  | nil => rfl
  | cons x calls ih =>
    have hsplit : c.pending ++ pushedBy (x :: calls) = (c.add x).pending ++ pushedBy calls := by
      simp [pushedBy]
    rw [hsplit] at hids
    have hall := hids
    rw [startIds_append, List.append_subset] at hids
    obtain ⟨hsegment, hrest⟩ := hids
    by_cases hx : c.due x
    · obtain ⟨next, t, hrun, hsize, hpending, hcache⟩ := run_cons_of_due h s hx hsegment calls
      have hnext := ih hcache t (by rwa [hpending, List.nil_append])
      rw [hrun, hnext, hsize, hpending]
      cases x with
      | push e =>
        have hlength : c.batchSize ≤ (c.pending ++ [e]).length := by simpa [due] using hx
        rw [correlations, if_pos hlength]
        rfl
      | flush =>
        rw [correlations, pending_add, Call.pushed, List.append_nil]
    · have hnext := ih (c := c.add x) h (x.record s) hall
      rw [run_cons, call_eq, if_neg hx, hnext]
      cases x with
      | push e =>
        have hlength : ¬ c.batchSize ≤ (c.pending ++ [e]).length := by simpa [due] using hx
        rw [correlations, if_neg hlength]
        rfl
      | flush => exact absurd rfl hx

/-- With room for every session that starts, a segment of events yields its starts, each with its
own payload as its session, and then those of its other events whose session has a start up to the
end of the segment, each with the payload of the last such start. -/
theorem run_eq_correlations {capacity : Nat} {calls : List Call}
    (hroom : (startIds (pushedBy calls)).dedup.length ≤ capacity) (batchSize : Nat) (s : Stats) :
    ((ofCache (RecentSessions.ofCapacity capacity) batchSize).run s calls).1 =
      correlations (max 1 batchSize) [] [] calls := by
  have hcache := RecentSessions.remembers_ofCapacity hroom
  exact run_eq_of_remembers (c := ofCache (RecentSessions.ofCapacity capacity) batchSize) hcache s
    calls (List.Subset.refl _)

/-- The first heartbeat comes before the start of its session and the second one behind the end of
the segment; the third event belongs to no session that has started. -/
theorem run_eq_correlations_late_start :
    let heartbeat : Event := ⟨"a", "HEARTBEAT", 1, none, 1, [], none⟩
    let start : Event := ⟨"a", "START", 2, none, 1, [("bu", .string "srf")], none⟩
    let calls : List Call := [.push heartbeat, .push start, .push heartbeat,
      .push { heartbeat with sessionId := "b" }, .flush]
    let session : Option Payload := some [("bu", .string "srf")]
    (startIds (pushedBy calls)).dedup.length ≤ 1 ∧
      ((ofCache (RecentSessions.ofCapacity 1) 2).run .empty calls).1 =
        correlations 2 [] [] calls ∧
      correlations 2 [] [] calls = [none,
        some [{ start with data := [], session }, { heartbeat with session }], none,
        some [{ heartbeat with session }], none] :=
  ⟨by decide, run_eq_correlations (by decide) 2 .empty, by rfl⟩

end Correlator
end PlaybackRelay

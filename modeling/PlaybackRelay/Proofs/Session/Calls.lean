import Mathlib.Data.List.ReduceOption
import PlaybackRelay.Session.Correlator

/-!
Sequences of calls on a correlator. A call adds what it pushes to the current batch and may end it,
and which batches come of it does not depend on what was counted before. Main definitions:
`Correlator.run` and `Correlator.batches`.
-/
namespace PlaybackRelay.Correlator

inductive Call where
  | push (e : Event)
  | flush

namespace Call

/-- The events that a call adds. -/
def pushed : Call → List Event
  | .push e => [e]
  | .flush => []

def record (s : Stats) : Call → Stats
  | .push _ => s.count .batched
  | .flush => s

end Call

/-- The events that are pushed by some calls. -/
def pushedBy (calls : List Call) : List Event := calls.flatMap Call.pushed

theorem pushedBy_map_push (events : List Event) : pushedBy (events.map .push) = events := by
  rw [pushedBy, List.flatMap_map]
  exact List.flatMap_singleton' events

variable {σ : Type}

def add (c : Correlator σ) (x : Call) : Correlator σ := { c with pending := c.pending ++ x.pushed }

@[simp] theorem pending_add (c : Correlator σ) (x : Call) :
    (c.add x).pending = c.pending ++ x.pushed := rfl

/-- Whether a call ends the current batch. -/
def due (c : Correlator σ) : Call → Bool
  | .push _ => c.batchSize ≤ c.pending.length + 1
  | .flush => true

/-- A batch without events is none. -/
def toBatch (events : List Event) : Option (List Event) :=
  if events.isEmpty then none else some events

@[simp] theorem flatten_toList_toBatch (events : List Event) :
    (toBatch events).toList.flatten = events := by
  cases events <;> simp [toBatch]

/-- An event with the session that was looked up for it. -/
def withSession? (x : Event × Option Payload) : Option Event :=
  x.2.map fun session => { x.1 with session := some session }

@[simp] theorem withSession?_none (e : Event) : withSession? (e, none) = none := rfl

@[simp] theorem withSession?_some (e : Event) (session : Payload) :
    withSession? (e, some session) = some { e with session := some session } := rfl

def countLookup (s : Stats) (x : Event × Option Payload) : Stats :=
  s.count (if x.2.isSome then .cacheHits else .unresolved)

variable [SessionCache σ]

/-- The sessions that are looked up for some events, one after the other. -/
def lookups : List Event → σ → List (Event × Option Payload) × σ
  | [], cache => ([], cache)
  | e :: rest, cache =>
    let (session, cache) := SessionCache.get e.sessionId cache
    let (found, cache) := lookups rest cache
    ((e, session) :: found, cache)

/-- What is looked up at the end of the current batch. -/
def found (c : Correlator σ) : List (Event × Option Payload) × σ :=
  lookups (c.pending.filter (!·.isStart)) ((c.pending.filter Event.isStart).foldl putStart c.cache)

/-- The current batch, if it ended now. -/
def resolved (c : Correlator σ) : List Event :=
  (c.pending.filter Event.isStart).map ofStart ++ c.found.1.filterMap withSession?

/-- What would be dropped of the current batch, if it ended now. -/
def unresolved (c : Correlator σ) : List Event := (c.found.1.filter (·.2.isNone)).map Prod.fst

/-- What a call drops. -/
def dropped (c : Correlator σ) (x : Call) : List Event :=
  if c.due x then (c.add x).unresolved else []

theorem dropped_flush_of_nil {c : Correlator σ} (h : c.pending = []) : c.dropped .flush = [] := by
  simp [dropped, due, unresolved, found, lookups, Call.pushed, h]

def call (c : Correlator σ) (s : Stats) : Call → Option (List Event) × Correlator σ × Stats
  | .push e => c.push s e
  | .flush => c.flush s

/-- Makes some calls one after the other; each may yield a batch. -/
def run (c : Correlator σ) (s : Stats) :
    List Call → List (Option (List Event)) × Correlator σ × Stats
  | [] => ([], c, s)
  | x :: calls =>
    let (batch, c, s) := c.call s x
    let (batches, c, s) := c.run s calls
    (batch :: batches, c, s)

/-- What some calls drop. -/
def droppedBy (c : Correlator σ) : List Call → List Event
  | [] => []
  | x :: calls => c.dropped x ++ (c.call .empty x).2.1.droppedBy calls

/-- The batches of events that are pushed one by one, with the one that is flushed behind them. -/
def batches (c : Correlator σ) (events : List Event) : List (List Event) :=
  (c.run .empty (events.map .push ++ [.flush])).1.reduceOption

theorem run_cons (c : Correlator σ) (s : Stats) (x : Call) (calls : List Call) :
    c.run s (x :: calls) =
      ((c.call s x).1 :: ((c.call s x).2.1.run (c.call s x).2.2 calls).1,
        ((c.call s x).2.1.run (c.call s x).2.2 calls).2) := rfl

theorem attach_eq (events : List Event) (cache : σ) (s : Stats) :
    attach events cache s =
      ((lookups events cache).1.filterMap withSession?, (lookups events cache).2,
        (lookups events cache).1.foldl countLookup s) := by
  induction events generalizing cache s with
  | nil => rfl
  | cons e rest ih =>
    cases h : SessionCache.get e.sessionId cache with
    | mk session cache' =>
      cases session with
      | none => simp [attach, lookups, h, ih, countLookup, List.filterMap_cons]
      | some session => simp [attach, lookups, h, ih, countLookup]

theorem flush_eq (c : Correlator σ) (s : Stats) :
    c.flush s = (toBatch c.resolved, { c with cache := c.found.2, pending := [] },
      c.found.1.foldl countLookup s) := by
  simp only [flush, resolve, attach_eq]
  rfl

theorem call_eq (c : Correlator σ) (s : Stats) (x : Call) :
    c.call s x =
      if c.due x then (c.add x).flush (x.record s) else (none, c.add x, x.record s) := by
  cases x with
  | push e => simp [call, push, due, add, Call.pushed, Call.record]
  | flush => simp [call, due, add, Call.pushed, Call.record]

/-- What was counted before has no influence on batches. -/
theorem call_stats (c : Correlator σ) (s t : Stats) (x : Call) :
    (c.call s x).1 = (c.call t x).1 ∧ (c.call s x).2.1 = (c.call t x).2.1 := by
  rw [call_eq, call_eq]
  split
  · rw [flush_eq, flush_eq]
    exact ⟨rfl, rfl⟩
  · exact ⟨rfl, rfl⟩

theorem run_stats (c : Correlator σ) (s t : Stats) (calls : List Call) :
    (c.run s calls).1 = (c.run t calls).1 ∧ (c.run s calls).2.1 = (c.run t calls).2.1 := by
  induction calls generalizing c s t with
  | nil => exact ⟨rfl, rfl⟩
  | cons x calls ih =>
    obtain ⟨hbatch, hcorrelator⟩ := call_stats c s t x
    obtain ⟨hbatches, hend⟩ := ih (c.call s x).2.1 (c.call s x).2.2 (c.call t x).2.2
    rw [run_cons, run_cons, hbatch, hbatches, hend, hcorrelator]
    exact ⟨rfl, rfl⟩

theorem run_append (c : Correlator σ) (s : Stats) (first second : List Call) :
    c.run s (first ++ second) =
      ((c.run s first).1 ++ ((c.run s first).2.1.run (c.run s first).2.2 second).1,
        ((c.run s first).2.1.run (c.run s first).2.2 second).2) := by
  induction first generalizing c s with
  | nil => rfl
  | cons x first ih => simp only [List.cons_append, run_cons, ih]

/-- The batches of some calls are the first ones if more calls follow. -/
theorem run_prefix (c : Correlator σ) (s : Stats) (first second : List Call) :
    (c.run s first).1.reduceOption <+: (c.run s (first ++ second)).1.reduceOption := by
  rw [run_append, List.reduceOption_append]
  exact List.prefix_append _ _

/-- One more call, with any counts. -/
theorem run_concat (c : Correlator σ) (s t : Stats) (calls : List Call) (x : Call) :
    (c.run s (calls ++ [x])).1 = (c.run s calls).1 ++ [((c.run s calls).2.1.call t x).1] ∧
      (c.run s (calls ++ [x])).2.1 = ((c.run s calls).2.1.call t x).2.1 := by
  obtain ⟨hbatch, hcorrelator⟩ := call_stats (c.run s calls).2.1 (c.run s calls).2.2 t x
  rw [run_append, ← hbatch, ← hcorrelator]
  exact ⟨rfl, rfl⟩

theorem droppedBy_append (c : Correlator σ) (first second : List Call) :
    c.droppedBy (first ++ second) =
      c.droppedBy first ++ (c.run .empty first).2.1.droppedBy second := by
  induction first generalizing c with
  | nil => rfl
  | cons x first ih =>
    have hcounts := (run_stats (c.call .empty x).2.1 (c.call .empty x).2.2 .empty first).2
    simp only [List.cons_append, droppedBy, ih, run_cons, hcounts, List.append_assoc]

theorem droppedBy_concat (c : Correlator σ) (calls : List Call) (x : Call) :
    c.droppedBy (calls ++ [x]) = c.droppedBy calls ++ (c.run .empty calls).2.1.dropped x := by
  rw [droppedBy_append]
  simp [droppedBy]

end PlaybackRelay.Correlator

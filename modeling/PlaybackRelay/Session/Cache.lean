import PlaybackRelay.Event.Basic

/-!
Memories of sessions: the payload of the event that started a session, by the session's identifier.
-/
namespace PlaybackRelay

class SessionCache (σ : Type) where
  get : String → σ → Option Payload × σ
  put : String → Payload → σ → σ
  size : σ → Nat

def SessionCache.isEmpty {σ : Type} [SessionCache σ] (cache : σ) : Bool :=
  SessionCache.size cache = 0

/-- Keeps the sessions that were touched last, the latest first. -/
structure RecentSessions where
  capacity : Nat
  entries : List (String × Payload)

namespace RecentSessions

def ofCapacity (capacity : Nat) : RecentSessions := ⟨capacity, []⟩

def without (id : String) (entries : List (String × Payload)) : List (String × Payload) :=
  entries.filter (·.1 ≠ id)

/-- A session that is found counts as touched. -/
def get (id : String) (c : RecentSessions) : Option Payload × RecentSessions :=
  match c.entries.lookup id with
  | some data => (some data, { c with entries := (id, data) :: without id c.entries })
  | none => (none, c)

/-- The session that had to go, and the cache with the new one. Without any room nothing is kept. -/
def push (id : String) (data : Payload) (c : RecentSessions) : Option String × RecentSessions :=
  let others := without id c.entries
  if c.capacity = 0 then (none, c)
  else if others.length < c.capacity then (none, { c with entries := (id, data) :: others })
  else (others.getLast?.map Prod.fst, { c with entries := (id, data) :: others.dropLast })

def size (c : RecentSessions) : Nat := c.entries.length

instance : SessionCache RecentSessions where
  get := get
  put id data c := (c.push id data).2
  size := size

end RecentSessions

/-- Keeps sessions until they have been idle for long, and admits no other one while it is full. -/
structure IdleSessions where
  capacity : Nat
  entries : List (String × Payload)

namespace IdleSessions

def ofCapacity (capacity : Nat) : IdleSessions := ⟨capacity, []⟩

def get (id : String) (c : IdleSessions) : Option Payload × IdleSessions := (c.entries.lookup id, c)

def put (id : String) (data : Payload) (c : IdleSessions) : IdleSessions :=
  let others := c.entries.filter (·.1 ≠ id)
  if others.length < c.capacity then { c with entries := (id, data) :: others } else c

def size (c : IdleSessions) : Nat := c.entries.length

instance : SessionCache IdleSessions where
  get := get
  put := put
  size := size

end IdleSessions
end PlaybackRelay

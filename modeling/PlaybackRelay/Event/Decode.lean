import PlaybackRelay.Event.Basic
import PlaybackRelay.Json.Record

/-!
Reading an event from a stream message. Six members are known; whatever else a message holds,
an attached session included, is passed over.
-/
namespace PlaybackRelay.Event

open Json (Scanned Fault Shape)

inductive Field where
  | sessionId
  | name
  | timestamp
  | clientIp
  | version
  | data
deriving DecidableEq, Repr

/-- The time stamp is accepted under two names. -/
def Field.ofName? (name : String) : Option Field :=
  if name = "session_id" then some .sessionId
  else if name = "event_name" then some .name
  else if name = "@timestamp" ∨ name = "timestamp" then some .timestamp
  else if name = "user_ip" then some .clientIp
  else if name = "version" then some .version
  else if name = "data" then some .data
  else none

def Field.order : List Field := [.sessionId, .name, .timestamp, .clientIp, .version, .data]

/-- The members read so far. An address that was given as null has been read. -/
structure Draft where
  sessionId : Option String
  name : Option String
  timestamp : Option Int64
  clientIp : Option (Option String)
  version : Option Int64
  data : Option Payload

namespace Draft

def empty : Draft := ⟨none, none, none, none, none, none⟩

def seen (d : Draft) : Field → Bool
  | .sessionId => d.sessionId.isSome
  | .name => d.name.isSome
  | .timestamp => d.timestamp.isSome
  | .clientIp => d.clientIp.isSome
  | .version => d.version.isSome
  | .data => d.data.isSome

def readInt64 (cs : List Char) : Except Fault (Scanned Int64) :=
  (Json.readInteger Int64.minValue.toInt Int64.maxValue.toInt cs).map
    fun (i, rest) => (Int64.ofInt i, rest)

def read (depth : Nat) (d : Draft) (f : Field) (cs : List Char) : Except Fault (Scanned Draft) :=
  match f with
  | .sessionId => (Json.readString cs).map fun (v, rest) => ({ d with sessionId := some v }, rest)
  | .name => (Json.readString cs).map fun (v, rest) => ({ d with name := some v }, rest)
  | .timestamp => (readInt64 cs).map fun (v, rest) => ({ d with timestamp := some v }, rest)
  | .clientIp =>
    (Json.readOptional Json.readString cs).map fun (v, rest) =>
      ({ d with clientIp := some v }, rest)
  | .version => (readInt64 cs).map fun (v, rest) => ({ d with version := some v }, rest)
  | .data => (Json.readObject depth cs).map fun (v, rest) => ({ d with data := some v }, rest)

def finish (d : Draft) : Option Event := do
  return {
    sessionId := ← d.sessionId
    name := ← d.name
    timestamp := ← d.timestamp
    clientIp := d.clientIp.join
    version := ← d.version
    data := ← d.data
    session := none }

end Draft

def shape : Shape Field Draft Event where
  field? := Field.ofName?
  order := Field.order
  empty := Draft.empty
  seen := Draft.seen
  read := Draft.read
  finish := Draft.finish
  mayEnd d := d.data.isSome

/-- Why a message is no event. -/
inductive DecodeError where
  | unreadable (fault : Fault)
  | emptySession
  | emptyName
deriving DecidableEq, Repr

/-- The wording of the errors whose wording is fixed. -/
def DecodeError.message? : DecodeError → Option String
  | .unreadable _ => none
  | .emptySession => some "required field session_id is empty"
  | .emptyName => some "required field event_name is empty"

/-- An event needs a session and a name; both are looked at once the whole message is read. -/
def decode (message : String) : Except DecodeError Event :=
  match Json.whole (shape.readRecord Json.maxDepth) message with
  | .error fault => .error (.unreadable fault)
  | .ok e =>
    if e.sessionId.isEmpty then .error .emptySession
    else if e.name.isEmpty then .error .emptyName
    else .ok e

end PlaybackRelay.Event

import PlaybackRelay.Json.Basic

/-!
A playback event as players report it and as it is stored.
-/
namespace PlaybackRelay

/-- The free-form payload of an event. -/
abbrev Payload := Json.Members

/-- `session` is the payload of the event that started the session. Players never send it; it is
attached when events are batched. -/
structure Event where
  sessionId : String
  name : String
  timestamp : Int64
  clientIp : Option String
  version : Int64
  data : Payload
  session : Option Payload
deriving Inhabited

namespace Event

def startName : String := "START"

def heartbeatName : String := "HEARTBEAT"

def errorName : String := "ERROR"

def isStart (e : Event) : Bool := e.name = startName

def isHeartbeat (e : Event) : Bool := e.name = heartbeatName

private def integer (i : Int64) : Json := .number (.ofInt i.toInt)

/-- The members of the stored document, in the order in which they are written. -/
def members (e : Event) : List (String × Json) :=
  [("session_id", .string e.sessionId), ("event_name", .string e.name),
    ("@timestamp", integer e.timestamp)] ++
  (match e.clientIp with | some ip => [("user_ip", .string ip)] | none => []) ++
  [("version", integer e.version), ("data", .object e.data)] ++
  (match e.session with | some s => [("session", .object s)] | none => [])

def document (e : Event) : List Char := (Json.object e.members).text

end Event
end PlaybackRelay

import PlaybackRelay.Agent.Analysis
import PlaybackRelay.Device.Model
import PlaybackRelay.Event.Decode
import PlaybackRelay.Failure.Category
import PlaybackRelay.Failure.Restriction
import PlaybackRelay.Media.Origin
import PlaybackRelay.Media.Urn
import PlaybackRelay.Payload.Integers

/-!
What is added to the payload of an event before it is stored. Each enrichment looks at the name of
the event and at the payload alone, and they are applied one after the other.
-/
namespace PlaybackRelay

inductive Enrichment where
  | agent
  | deviceName
  | restriction
  | failure
  | mediaUrn
  | origin
  | integers
deriving DecidableEq, Repr

namespace Enrichment

def all : List Enrichment :=
  [.agent, .deviceName, .restriction, .failure, .mediaUrn, .origin, .integers]

def name : Enrichment → String
  | .agent => "user_agent"
  | .deviceName => "device_name"
  | .restriction => "content_restriction"
  | .failure => "error_type"
  | .mediaUrn => "media_id"
  | .origin => "origin"
  | .integers => "clamp"

def ofName? (name : String) : Option Enrichment := all.find? (·.name = name)

def mediaString? (name : String) (data : Payload) : Option String :=
  (data.object? "media").bind (·.string? name)

def isBusinessError (data : Payload) : Bool :=
  (data.get? "business_error").bind Json.bool? = some true

/-- Whether the enrichment is meant for an event. -/
def applies (eventName : String) (data : Payload) : Enrichment → Bool
  | .agent | .deviceName => eventName = Event.startName
  | .restriction => eventName = Event.errorName
  | .failure => eventName = Event.errorName && !isBusinessError data
  | .mediaUrn => eventName = Event.startName && (mediaString? "id" data).isSome
  | .origin => eventName = Event.startName && (mediaString? "origin" data).isSome
  | .integers => true

/-- A value that could not be told is written as null. -/
def told (value : String) : Json := if value = Agent.unknown then .null else .string value

def describe (name version : String × String) (ms : Payload) : Payload :=
  (ms.insert name.1 (told name.2)).insert version.1 (told version.2)

/-- Writes down what the browser's User-Agent text tells. -/
def addAgent (data : Payload) : Payload :=
  match (data.object? "browser").bind (·.string? "user_agent") with
  | none => data
  | some text =>
    let agent := Agent.ofText text.toList
    let data := data.onObject "browser" (describe ("name", agent.name) ("version", agent.version))
    let data :=
      data.inObject "device" (describe ("model", agent.deviceName) ("type", agent.deviceKind))
    let data :=
      data.inObject "os" (describe ("name", agent.systemName) ("version", agent.systemVersion))
    data.insert "robot" (.bool agent.isSuspect)

def addDeviceName (data : Payload) : Payload :=
  data.onObject "device" fun device =>
    match (device.string? "model").bind fun model => Device.modelName? model.toList with
    | some name => device.insert "model" (.string name)
    | none => device

def addRestriction (data : Payload) : Payload :=
  match (data.string? "message").bind Failure.Restriction.ofMessage? with
  | some reason =>
    (data.insert "block_reason" (.string reason.code)).insert "business_error" (.bool true)
  | none => data.insert "business_error" (.bool false)

def category (data : Payload) : Failure.Category :=
  Failure.Category.classify ((data.string? "log").map String.toList)
    ((data.string? "name").map String.toList)

def addCategory (data : Payload) : Payload :=
  data.insert "error_type" (.string (category data).code)

/-- Inserts a member if there is a value for it. -/
def insertSome (name : String) (value : Option Json) (ms : Payload) : Payload :=
  match value with
  | some v => ms.insert name v
  | none => ms

def addUrn (data : Payload) : Payload :=
  data.onObject "media" fun media =>
    match media.string? "id" with
    | none => media
    | some id =>
      let media := insertSome "bu" ((Media.Urn.broadcaster? id.toList).map .string) media
      let media := insertSome "type" ((Media.Urn.kind? id.toList).map .string) media
      insertSome "swisstxt" (if Media.Urn.isTextService id.toList then some (.bool true) else none)
        media

def addOrigin (data : Payload) : Payload :=
  match mediaString? "origin" data with
  | none => data
  | some page =>
    let short := (Media.Origin.short? page.toList).map fun short => .string (String.ofList short)
    let data := data.onObject "media" (insertSome "short_origin" short)
    data.insert "embed" (.bool (Media.Origin.isEmbedded page.toList))

def run : Enrichment → Payload → Payload
  | .agent => addAgent
  | .deviceName => addDeviceName
  | .restriction => addRestriction
  | .failure => addCategory
  | .mediaUrn => addUrn
  | .origin => addOrigin
  | .integers => Json.clampMembers

/-- Runs an enrichment if it is meant for the event. -/
def step (e : Event) (enrichment : Enrichment) : Event :=
  if enrichment.applies e.name e.data then { e with data := enrichment.run e.data } else e

end Enrichment

namespace Event

def enrichWith (enrichments : List Enrichment) (e : Event) : Event :=
  enrichments.foldl Enrichment.step e

def enrich (e : Event) : Event := e.enrichWith Enrichment.all

/-- Reads a message as a player's event and enriches it. -/
def receive (message : String) : Except DecodeError Event := (decode message).map enrich

end Event
end PlaybackRelay

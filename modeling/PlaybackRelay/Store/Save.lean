import PlaybackRelay.Network.Request
import PlaybackRelay.Store.Bulk
import PlaybackRelay.Store.Reply

/-!
Saving a batch of events with one bulk request.
-/
namespace PlaybackRelay.Store

/-- Where bulk requests go. -/
def bulkUri (base : String) : String :=
  String.ofList (base.toList.reverse.dropWhile (· = '/')).reverse ++ "/_bulk"

/-- Asks the store to create the documents of a batch. -/
def request (base : String) (indexes : Indexes) (batch : List Event) : Network.Request :=
  ⟨"POST", bulkUri base, "*/*", some "application/x-ndjson", bulkBody indexes batch⟩

/-- Why a batch was not saved. -/
inductive SaveError where
  | transport
  | status (status : Nat) (body : String)
  | unreadable (fault : Json.Fault)

/-- The wording of the errors whose wording is fixed. -/
def SaveError.message? : SaveError → Option String
  | .transport | .unreadable _ => none
  | .status code body =>
    some ("bulk request was rejected with status " ++ Network.Status.text code ++ ": " ++ body)

/-- A document that the store refused. -/
structure Rejection where
  position : Nat
  action : String
  index : String
  status : Option Nat
  sessionId : String
  error : Json

namespace Rejection

/-- By position, then by action. -/
def le (a b : Rejection) : Bool :=
  a.position < b.position || (a.position = b.position && a.action ≤ b.action)

def ofResult? (batch : List Event) (position : Nat) (result : String × Result) : Option Rejection :=
  result.2.error.map fun error => {
    position, action := result.1, index := result.2.index.getD "", status := result.2.status
    sessionId := (batch[position]?.map Event.sessionId).getD "", error }

end Rejection

/-- The results are looked at only where the reply says that there are errors. -/
def Reply.rejections (r : Reply) (batch : List Event) : List Rejection :=
  if r.errors then
    r.items.zipIdx.flatMap fun (item, position) =>
      (item.filterMap (Rejection.ofResult? batch position)).mergeSort Rejection.le
  else []

/-- A batch that was saved, less the documents that were refused. -/
structure Saved where
  sent : Nat
  rejections : List Rejection

namespace Saved

def failed (s : Saved) : Nat := s.rejections.length

end Saved

/-- What comes of the response to the request for a batch. A body that never ends is waited for only
so long. -/
def save (batch : List Event) : Network.Exchange → Except SaveError Saved
  | .failed => .error .transport
  | .response code body bodyEnd =>
    if !Network.Status.isSuccess code then
      let text := match bodyEnd with
        | .complete => String.ofList (Text.decodeMarked body)
        | .cut | .held => ""
      .error (.status code text)
    else
      match bodyEnd with
      | .cut | .held => .error .transport
      | .complete =>
        match Reply.parse body with
        | .error fault => .error (.unreadable fault)
        | .ok reply => .ok ⟨batch.length, reply.rejections batch⟩

end PlaybackRelay.Store

import PlaybackRelay.Network.Request
import PlaybackRelay.Stream.Framing

/-!
What a connection to the stream delivers, and how it is lost.
-/
namespace PlaybackRelay.Stream

open Network (Exchange)

/-- Asks for the stream. -/
def request (uri : String) : Network.Request := ⟨"GET", uri, "text/event-stream", none, []⟩

/-- Why a connection was lost. -/
inductive Loss where
  | connect
  | status (status : Nat)
  | read
  | closed
deriving DecidableEq, Repr

/-- The wording of the losses whose wording is fixed. -/
def Loss.message? : Loss → Option String
  | .connect | .read => none
  | .status code => some ("event stream responded with status " ++ Network.Status.text code)
  | .closed => some "event stream was closed by the server"

/-- The messages in a body. Only one that is complete ends its last block. -/
def bodyMessages (body : List UInt8) (bodyEnd : Network.BodyEnd) : List String :=
  let (messages, framing) := Framing.start.feed body
  match bodyEnd with
  | .complete => messages ++ framing.finish.1
  | .cut | .held => messages

/-- The messages that a connection delivers. -/
def messages : Exchange → List String
  | .failed => []
  | .response code body bodyEnd =>
    if Network.Status.isSuccess code then bodyMessages body bodyEnd else []

/-- How a connection is lost once everything is delivered, unless it is held open. -/
def loss? : Exchange → Option Loss
  | .failed => some .connect
  | .response code _ bodyEnd =>
    if Network.Status.isSuccess code then
      match bodyEnd with
      | .complete => some .closed
      | .cut => some .read
      | .held => none
    else some (.status code)

end PlaybackRelay.Stream

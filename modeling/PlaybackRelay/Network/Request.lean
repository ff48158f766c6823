import PlaybackRelay.Network.Exchange

/-!
Requests that a relay makes.
-/
namespace PlaybackRelay.Network

structure Request where
  method : String
  uri : String
  accept : String
  contentType : Option String
  body : List Char

/-- Every request carries the same name. -/
def userAgent : String := "telemetry-transfer"

end PlaybackRelay.Network

import PlaybackRelay.Health.Target
import PlaybackRelay.Metrics.Basic
import PlaybackRelay.Pipeline.Lifecycle
import PlaybackRelay.Text.Decimal

/-!
The routes under which a relay tells how it does. Where requests are recorded, each one is counted
by its method, its path and the status of the response, and the metrics have a route of their own.
-/
namespace PlaybackRelay.Health

/-- A request with the path of its target. -/
structure Request where
  method : String
  path : String

/-- The metrics are the only page that is not fixed. -/
inductive Page where
  | text (text : String)
  | metrics
deriving DecidableEq, Repr

/-- The headers of a page may come without the page itself. -/
structure Response where
  status : Nat
  allow : Option String
  contentType : Option String
  page : Page
  hasBody : Bool
deriving DecidableEq, Repr

def plainText : String := "text/plain; charset=utf-8"

/-- A running relay is alive until it has stopped. -/
def liveness (state : Lifecycle.State) : Nat × Page :=
  match state with
  | .running | .draining => (200, .text "ok")
  | .idle => (503, .text "starting")
  | .stopped | .failed => (503, .text "stopped")

def route? (state : Lifecycle.State) (recording : Bool) (path : String) : Option (Nat × Page) :=
  if path = "/" ∨ path = "/_readiness" then some (200, .text "telemetry transfer")
  else if path = "/_liveness" then some (liveness state)
  else if path = "/metrics" ∧ recording then some (200, .metrics)
  else none

/-- Every route can be read and nothing else. -/
def respond (state : Lifecycle.State) (recording : Bool) (r : Request) : Response :=
  match route? state recording r.path with
  | none => ⟨404, none, none, .text "", true⟩
  | some (status, page) =>
    if r.method = "GET" ∨ r.method = "HEAD" then
      ⟨status, none, some plainText, page, r.method = "GET"⟩
    else ⟨405, some "GET,HEAD", none, .text "", true⟩

def series (r : Request) (status : Nat) : String :=
  "http_requests_total\x7bmethod=\"" ++ escapeLabel r.method ++ "\",path=\"" ++
    escapeLabel r.path ++ "\",status=\"" ++ Text.decimalString status ++ "\"\x7d"

/-- Answers a request, and counts it where requests are recorded. -/
def serve (state : Lifecycle.State) (recording : Bool) (r : Request) (m : Metrics) :
    Response × Metrics :=
  let response := respond state recording r
  (response, if recording then m.increase (series r response.status) 1 else m)

end PlaybackRelay.Health

import PlaybackRelay.Pipeline.Run
import PlaybackRelay.Settings.Limits
import PlaybackRelay.Store.Save

/-!
A whole relay: settings from the environment, and one run of the pipeline that they describe. Main
functions: `Relay.settings` and `Relay.run`.
-/
namespace PlaybackRelay.Relay

open Pipeline (Write Ending Plan Surroundings RunError)

/-- What comes back from the network, by the number of the connection to the stream and to the
store. -/
structure Network where
  stream : Nat → Network.Exchange
  store : Nat → Network.Exchange

/-- How a relay ends: the error with the chain of its causes, the events that were printed, the
waits for the stream, and the requests that were made to the stream and to the store. -/
structure Report where
  errors : List String
  printed : List Event
  reconnects : List Stream.Reconnect
  streamRequests : List Network.Request
  storeRequests : List Network.Request

namespace Report

/-- A relay that never got to run. -/
def ofErrors (errors : List String) : Report := ⟨errors, [], [], [], []⟩

def exitCode (r : Report) : UInt32 := if r.errors.isEmpty then 0 else 1

/-- Where an error has more than one cause, the causes are numbered. -/
def causeLines : List String → List String
  | [] => []
  | [cause] => ["", "Caused by:", "    " ++ cause]
  | causes =>
    "" :: "Caused by:" ::
      causes.zipIdx.map fun (cause, n) => "    " ++ Text.decimalString n ++ ": " ++ cause

def errorText (r : Report) : String :=
  match r.errors with
  | [] => ""
  | error :: causes =>
    String.join ((("Error: " ++ error) :: causeLines causes).map (· ++ "\n"))

end Report

def lossText (cause : Stream.Loss) : String :=
  match cause with
  | .connect => "failed to connect to the event stream"
  | .read => "failed reading from the event stream"
  | cause => cause.message?.getD ""

/-- The error and the chain of its causes. -/
def runErrors : RunError → List String
  | .alreadyStarted => ["pipeline was already started"]
  | .task => ["pipeline task failed"]
  | .stream attempts cause =>
    let exhausted := "event stream retries exhausted after " ++
      Text.decimalString attempts.toNat ++ " attempts: " ++ lossText cause
    ["event stream failed: " ++ exhausted, exhausted, lossText cause]

/-- The print sink takes every document; the store answers for itself. -/
def saveBatch (s : Settings) (store : Nat → Network.Exchange) (write : Write) : Ending :=
  if s.printOnly then .written 0 .zero
  else
    match Store.save write.batch (store write.number) with
    | .ok saved => .written saved.failed .zero
    | .error _ => .refused .zero

/-- Runs a pipeline with a cache of its own. -/
def runWith {σ : Type} [SessionCache σ] (s : Settings) (n : Network) (stop : Stats → Bool)
    (cache : σ) : Report :=
  let plan : Plan := ⟨s.backoff, n.stream, s.maxWrites.toNat, false⟩
  let surroundings : Surroundings := ⟨fun write => some (saveBatch s n.store write), stop⟩
  let pipeline := Pipeline.ofCache cache s.bufferCapacity.toNat s.batchSize.toNat
  let (result, pipeline) := pipeline.run plan surroundings
  let handed := pipeline.world.handed
  {
    errors := match result with
      | some (.error e) => runErrors e
      | some (.ok _) | none => []
    printed := if s.printOnly then handed.flatten else []
    reconnects := pipeline.world.stream.reconnects
    streamRequests := List.replicate pipeline.world.stream.opened (Stream.request s.streamUri)
    storeRequests :=
      if s.printOnly then [] else handed.map (Store.request s.storeUri s.indexes) }

/-- The settings that the environment describes, if a relay can start with them, or else the error
with the chain of its causes. What a task builds for itself is not looked at before it runs. -/
def settings (env : Settings.Environment) : Except (List String) Settings := do
  match Settings.ofEnvironment env with
  | .error e => throw ["failed to load configuration from env", e.message]
  | .ok s =>
    if let .error e := s.validate then throw [e.message]
    if let some part := s.ownParts.find? (!·.fits) then throw [part.message]
    return s

/-- Runs a relay with its settings. -/
def run (s : Settings) (n : Network) (stop : Stats → Bool) : Report :=
  match s.cacheIdleSeconds with
  | some _ => runWith s n stop (IdleSessions.ofCapacity s.cacheSize.toNat)
  | none => runWith s n stop (RecentSessions.ofCapacity s.cacheSize.toNat)

end PlaybackRelay.Relay

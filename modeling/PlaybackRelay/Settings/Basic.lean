import PlaybackRelay.Settings.Reading
import PlaybackRelay.Store.Bulk
import PlaybackRelay.Stream.Backoff
import PlaybackRelay.Text.Decimal
import PlaybackRelay.Url.Basic

/-!
The settings of a relay. Main functions: `Settings.ofEnvironment`, which names the first variable
that cannot be read, and `Settings.validate`, which refuses values that a relay cannot run with.
-/
namespace PlaybackRelay

/-- Without idle seconds, sessions are kept until others take their place. -/
structure Settings where
  host : String
  port : UInt16
  streamUri : String
  storeUri : String
  indexes : Store.Indexes
  cacheSize : UInt64
  cacheIdleSeconds : Option UInt64
  bufferCapacity : UInt64
  batchSize : UInt64
  maxWrites : UInt64
  requestTimeout : Duration
  connectTimeout : Duration
  shutdownTimeout : Duration
  statsInterval : Duration
  backoff : Backoff
  printOnly : Bool

namespace Settings

/-- The variables that settings are read from. -/
def variableNames : List String := [
  "BIND_HOST", "BIND_PORT", "DISPATCH_URI", "OPENSEARCH_URI", "CORE_INDEX", "HEARTBEAT_INDEX",
  "SESSION_CACHE_SIZE", "SESSION_CACHE_TTL_SECONDS", "BUFFER_CAPACITY", "BATCH_SIZE",
  "MAX_CONCURRENT_WRITES", "REQUEST_TIMEOUT_MS", "CONNECT_TIMEOUT_MS", "SHUTDOWN_TIMEOUT_MS",
  "STATS_INTERVAL_MS", "STREAM_RETRY_MAX_ATTEMPTS", "STREAM_RETRY_INITIAL_INTERVAL_MS",
  "STREAM_RETRY_MAX_INTERVAL_MS", "PRINT_SINK"]

def ofEnvironment (env : Environment) : Except Unreadable Settings := do
  let host ← read env "BIND_HOST" some "0.0.0.0"
  let port ← read env "BIND_PORT" uint16? 3301
  let streamUri ← read env "DISPATCH_URI" some "http://localhost:8080"
  let storeUri ← read env "OPENSEARCH_URI" some "http://localhost:9200"
  let core ← read env "CORE_INDEX" nonempty? "core_events"
  let heartbeat ← read env "HEARTBEAT_INDEX" nonempty? "heartbeat_events"
  let cacheSize ← read env "SESSION_CACHE_SIZE" uint64? 200000
  let cacheIdleSeconds ← readOptional env "SESSION_CACHE_TTL_SECONDS" uint64?
  let bufferCapacity ← read env "BUFFER_CAPACITY" uint64? 30000
  let batchSize ← read env "BATCH_SIZE" uint64? 6000
  let maxWrites ← read env "MAX_CONCURRENT_WRITES" uint64? 4
  let requestTimeout ← read env "REQUEST_TIMEOUT_MS" duration? (.ofMillis 10000)
  let connectTimeout ← read env "CONNECT_TIMEOUT_MS" duration? (.ofMillis 10000)
  let shutdownTimeout ← read env "SHUTDOWN_TIMEOUT_MS" duration? (.ofMillis 30000)
  let statsInterval ← read env "STATS_INTERVAL_MS" duration? (.ofMillis 60000)
  let maxAttempts ← read env "STREAM_RETRY_MAX_ATTEMPTS" uint32? 5
  let initial ← read env "STREAM_RETRY_INITIAL_INTERVAL_MS" duration? (.ofMillis 5000)
  let maximum ← read env "STREAM_RETRY_MAX_INTERVAL_MS" duration? (.ofMillis 60000)
  let printOnly ← read env "PRINT_SINK" bool? false
  return {
    host, port, streamUri, storeUri, indexes := ⟨core, heartbeat⟩, cacheSize, cacheIdleSeconds
    bufferCapacity, batchSize, maxWrites, requestTimeout, connectTimeout, shutdownTimeout
    statsInterval, backoff := ⟨initial, maximum, maxAttempts⟩, printOnly }

/-- Where health and metrics are served. -/
def bind (s : Settings) : String := s.host ++ ":" ++ Text.decimalString s.port.toNat

/-- Why a relay cannot run with its settings. -/
inductive Invalid where
  | zero (variableName : String)
  | uri (variableName value : String) (error : Url.ParseError)
deriving DecidableEq, Repr

def Invalid.message : Invalid → String
  | .zero name => name ++ " must be at least 1"
  | .uri name value error =>
    name ++ " is not a valid absolute URL (" ++ value ++ "): " ++ error.message

/-- Everything that must not be zero, in the order in which it is looked at. -/
def positive (s : Settings) : List (String × Bool) := [
  ("BATCH_SIZE", s.batchSize ≠ 0),
  ("BUFFER_CAPACITY", s.bufferCapacity ≠ 0),
  ("MAX_CONCURRENT_WRITES", s.maxWrites ≠ 0),
  ("REQUEST_TIMEOUT_MS", !s.requestTimeout.isZero),
  ("CONNECT_TIMEOUT_MS", !s.connectTimeout.isZero),
  ("SHUTDOWN_TIMEOUT_MS", !s.shutdownTimeout.isZero),
  ("STATS_INTERVAL_MS", !s.statsInterval.isZero),
  ("STREAM_RETRY_INITIAL_INTERVAL_MS", !s.backoff.initial.isZero),
  ("STREAM_RETRY_MAX_INTERVAL_MS", !s.backoff.maximum.isZero)]

def uris (s : Settings) : List (String × String) :=
  [("DISPATCH_URI", s.streamUri), ("OPENSEARCH_URI", s.storeUri)]

def validateUri (uri : String × String) : Except Invalid Unit :=
  match Url.parse uri.2.toList with
  | .ok _ => .ok ()
  | .error error => .error (.uri uri.1 uri.2 error)

def validate (s : Settings) : Except Invalid Unit :=
  match s.positive.find? (!·.2) with
  | some (name, _) => .error (.zero name)
  | none => s.uris.forM validateUri

end Settings
end PlaybackRelay

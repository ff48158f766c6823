import PlaybackRelay.Json.Basic
import PlaybackRelay.Text.Blank
import PlaybackRelay.Text.Search

/-!
Technical failures of players. Players in browsers send a log, in which the failure that is named
last counts; those on Apple devices send the name of an error; those on Android a trace of calls
together with the name of an exception.
-/
namespace PlaybackRelay.Failure

inductive Category where
  | connection
  | drm
  | drmNotSupported
  | integrationLayer
  | mediaSource
  | network
  | unsupportedMedia
  | unknown
deriving DecidableEq, Repr

namespace Category

def code : Category → String
  | .connection => "CONNECTION_ERROR"
  | .drm => "DRM_ERROR"
  | .drmNotSupported => "DRM_NOT_SUPPORTED"
  | .integrationLayer => "IL_ERROR"
  | .mediaSource => "PLAYBACK_MEDIA_SOURCE_ERROR"
  | .network => "PLAYBACK_NETWORK_ERROR"
  | .unsupportedMedia => "PLAYBACK_UNSUPPORTED_MEDIA"
  | .unknown => "UNKNOWN_ERROR"

/-- The member with its value, with any white space around the colon. -/
def teapotAt? (cs : List Char) : Option Unit := do
  let rest ← Text.behind? "\"httpStatusCode\"".toList cs
  let rest ← Text.behind? [':'] (Text.trimStart rest)
  let _ ← Text.behind? "418".toList (Text.trimStart rest)
  return ()

/-- The status that means a broken connection; it outweighs all markers. -/
def hasTeapot (log : List Char) : Bool := (Text.first? teapotAt? log).isSome

def markers : List (String × Category) := [
  ("il.srgssr.ch", .integrationLayer),
  ("ERROR_DRM_NOT_SUPPORTED_MESSAGE", .drmNotSupported),
  ("MEDIA_ERR_ENCRYPTED", .drm),
  ("MEDIA_ERR_DECODE", .mediaSource),
  ("MEDIA_ERR_SRC_NOT_SUPPORTED", .unsupportedMedia),
  ("MEDIA_ERR_NETWORK", .network)]

/-- Takes a later place over an earlier one and, at the same place, the one that came first. -/
def later (best : Option (Nat × Category)) (found : Nat × Category) : Option (Nat × Category) :=
  match best with
  | some (place, category) => some (if place < found.1 then found else (place, category))
  | none => some found

/-- The marker whose last occurrence stands furthest down the log. -/
def lastMarker? (log : List Char) : Option Category :=
  let places := markers.filterMap fun (marker, category) =>
    (Text.lastStart? marker log).map (·, category)
  (places.foldl later none).map Prod.snd

def ofWebLog? (log : List Char) : Option Category :=
  if hasTeapot log then some .connection else lastMarker? log

/-- The name of a family, folded like the text, and a bracketed rest on the same line. -/
def isOfDomain (domain : String) (folded : List Char) : Bool :=
  match Text.behind? (Text.fold domain.toList ++ ['(']) folded with
  | some rest => rest.getLast? = some ')' && !rest.contains '\n'
  | none => false

/-- What the whole name of an error is compared with. -/
inductive NamePattern where
  | exact (name : String)
  /-- The name of a family of errors, with one error in brackets behind it. -/
  | family (domain : String)

def NamePattern.fits (folded : List Char) : NamePattern → Bool
  | .exact name => Text.fold name.toList = folded
  | .family domain => isOfDomain domain folded

structure NamedError where
  category : Category
  patterns : List NamePattern
  priority : Nat

def NamedError.fits (folded : List Char) (e : NamedError) : Bool :=
  e.patterns.any (·.fits folded)

def namedErrors : List NamedError := [
  ⟨.integrationLayer, [.exact "PillarboxCoreBusiness.DataError(1)"], 10⟩,
  ⟨.drm, [.exact "AVFoundationErrorDomain(-11870)"], 10⟩,
  ⟨.mediaSource, [.family "AVFoundationErrorDomain", .family "CoreMediaErrorDomain",
    .family "NSCocoaErrorDomain"], 0⟩,
  ⟨.network, [.family "NSURLErrorDomain"], 0⟩,
  ⟨.connection, [.exact "NSURLErrorDomain(-1009)"], 10⟩]

/-- Takes an error over the best of those that come behind it, unless that has a higher priority. -/
def foremost (e : NamedError) (best : Option NamedError) : Option NamedError :=
  match best with
  | some other => some (if other.priority ≤ e.priority then e else other)
  | none => some e

/-- By the name of an error, without regard to case and to white space around it. -/
def ofErrorName? (name : List Char) : Option Category :=
  let folded := Text.fold (Text.trim name)
  ((namedErrors.filter (·.fits folded)).foldr foremost none).map (·.category)

def isNamed (names : List String) (name : List Char) : Bool :=
  names.any fun n => Text.equalIgnoringAsciiCase n.toList name

def firstLine (cs : List Char) : List Char := cs.takeWhile (· ≠ '\n')

/-- What a trace of calls is searched for. -/
inductive TracePattern where
  | anywhere (part : String)
  | atStart (start : String)
  /-- A beginning with another text behind it, on the first line. -/
  | onFirstLine (start part : String)

def TracePattern.fits (log : List Char) : TracePattern → Bool
  | .anywhere part => Text.occurs part log
  | .atStart start => Text.startsWith start log
  | .onFirstLine start part =>
    match Text.behind? start.toList log with
    | some rest => Text.occurs part (firstLine rest)
    | none => false

/-- A pattern that does not count where the one that bars it fits too. -/
structure TraceSign where
  pattern : TracePattern
  barring : Option TracePattern := none

def TraceSign.fits (log : List Char) (s : TraceSign) : Bool :=
  s.pattern.fits log && !s.barring.any (·.fits log)

structure TracedError where
  category : Category
  signs : List TraceSign
  /-- The exceptions that it goes with; without any it goes with all. -/
  exceptions : List String

def TracedError.fits (log name : List Char) (e : TracedError) : Bool :=
  (e.exceptions.isEmpty || isNamed e.exceptions name) && e.signs.any (·.fits log)

def loaderCall : String := "SRGAssetLoader.loadAsset"

def playerCall : String := "androidx.media3.exoplayer."

def playerTimeout : TracePattern := .onFirstLine playerCall "timeout"

def tracedErrors : List TracedError := [
  ⟨.drm, [{ pattern := .anywhere "drm" }], []⟩,
  ⟨.integrationLayer, [{ pattern := .anywhere loaderCall }],
    ["HttpResultException", "IOException"]⟩,
  ⟨.unsupportedMedia, [{ pattern := .anywhere loaderCall }], ["ResourceNotFoundException"]⟩,
  ⟨.network, [{ pattern := .atStart "androidx.media3.datasource.HttpDataSource" },
    { pattern := playerTimeout }], []⟩,
  ⟨.mediaSource, [{ pattern := .atStart "androidx.media3.common.ParserException" },
    { pattern := .atStart playerCall, barring := some playerTimeout }], []⟩]

/-- By a trace of calls and the name of an exception; the first error that fits is taken. -/
def ofTrace? (log name : List Char) : Option Category :=
  (tracedErrors.find? (·.fits log name)).map (·.category)

/-- The category of a failure from its log and its name, either of which may be missing. -/
def classify (log name : Option (List Char)) : Category :=
  (((log.bind ofWebLog?).or (name.bind ofErrorName?)).or
    (log.bind fun log => ofTrace? log (name.getD []))).getD .unknown

end Category
end PlaybackRelay.Failure

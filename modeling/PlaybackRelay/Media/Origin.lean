import PlaybackRelay.Text.Search
import PlaybackRelay.Url.Basic

/-!
The page that a player was loaded from.
-/
namespace PlaybackRelay.Media.Origin

/-- A path of an embedded player occurs, followed by more of the path or a query. -/
def isEmbedded (origin : List Char) : Bool :=
  Text.occurs "/play/embed?" origin || Text.occurs "/play/embed/" origin

/-- The host and the first segment of the path that is not empty, if there is one. -/
def short? (origin : List Char) : Option (List Char) :=
  match Url.parse origin with
  | .error _ => none
  | .ok url =>
    url.host.map fun host =>
      match url.segments.find? (!·.isEmpty) with
      | some segment => host ++ '/' :: segment
      | none => host

end PlaybackRelay.Media.Origin

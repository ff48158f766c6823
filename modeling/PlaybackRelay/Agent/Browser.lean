import PlaybackRelay.Agent.Version

/-!
The browsers that players run in.
-/
namespace PlaybackRelay.Agent

/-- What stands in front of a version, with the browser it belongs to. A browser that also names
another one comes before it. -/
def browsers : List (String × String) := [
  ("Edg/", "Edge"),
  ("EdgA/", "Edge"),
  ("EdgiOS/", "Edge"),
  ("OPR/", "Opera"),
  ("SamsungBrowser/", "SamsungBrowser"),
  ("YaBrowser/", "Yandex Browser"),
  ("FxiOS/", "Firefox"),
  ("Firefox/", "Firefox"),
  ("CriOS/", "Chrome"),
  ("Chrome/", "Chrome")]

def versionBehind? (token : String) (ua : List Char) : Option String :=
  (Text.after? token ua).map fun rest => withoutZeros (productVersion rest)

def listedBrowser? (ua : List Char) : Option (String × String) :=
  browsers.findSome? fun (token, name) => (versionBehind? token ua).map (name, ·)

def safari? (ua : List Char) : Option (String × String) :=
  if Text.occurs "Safari/" ua then (versionBehind? "Version/" ua).map ("Safari", ·) else none

def explorer? (ua : List Char) : Option (String × String) :=
  match versionBehind? "MSIE " ua with
  | some version => some ("Internet Explorer", version)
  | none => if Text.occurs "Trident/" ua then some ("Internet Explorer", "11") else none

/-- Name and version. -/
def browser (ua : List Char) : String × String :=
  (((listedBrowser? ua).or (safari? ua)).or (explorer? ua)).getD (unknown, unknown)

end PlaybackRelay.Agent

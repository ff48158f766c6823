import PlaybackRelay.Agent.Version
import PlaybackRelay.Text.Blank

/-!
The device and the system that a browser runs on.
-/
namespace PlaybackRelay.Agent

/-- The version of Android and the model of the device. -/
structure Android where
  version : List Char
  model : Option (List Char)

def androidAt? (cs : List Char) : Option Android := do
  let (version, rest) ← numbers? (· = '.') (← Text.behind? "Android ".toList cs)
  let model := ((Text.behind? "; ".toList rest).getD []).takeWhile fun c => c ≠ ';' ∧ c ≠ ')'
  return ⟨version, if model.isEmpty then none else some model⟩

def android? (ua : List Char) : Option Android := Text.first? androidAt? ua

/-- A model that is missing or hidden is called by the system. -/
def Android.device (a : Android) : String :=
  let model := Text.trim (a.model.getD [])
  if model.isEmpty ∨ model = ['K'] then "Android Mobile" else String.ofList model

def mentions (parts : List String) (ua : List Char) : Bool := parts.any (Text.occurs · ua)

/-- Name and kind. -/
def device (ua : List Char) : String × String :=
  if mentions ["AppleTV", "tvOS"] ua then ("Apple TV", "TV")
  else if mentions ["iPhone"] ua then ("Apple iPhone", "Phone")
  else if mentions ["iPad"] ua then ("Apple iPad", "Tablet")
  else if mentions ["SMART-TV", "SmartTV", "Web0S"] ua then ("Smart TV", "TV")
  else if mentions ["CrKey"] ua then ("Google Chromecast", "TV")
  else
    match android? ua with
    | some a => (a.device, if mentions ["Mobile"] ua then "Phone" else "Tablet")
    | none =>
      if mentions ["Macintosh"] ua then ("Apple Macintosh", "Desktop")
      else if mentions ["Windows NT", "X11", "CrOS"] ua then ("Desktop", "Desktop")
      else (unknown, unknown)

/-- The numbers behind the first of some names that has numbers behind it. -/
def numbersBehind? (names : List String) (isSeparator : Char → Bool) (ua : List Char) :
    Option (List Char) :=
  Text.first? (fun cs => names.findSome? fun name => do
    let (numbers, _) ← numbers? isSeparator (← Text.behind? name.toList cs)
    return numbers) ua

/-- Browsers report every later version as this one. -/
def frozenMac : String := "10.15.7"

def macVersion (numbers : List Char) : String :=
  let version := dotted numbers
  if version = frozenMac then ">=10.15.7" else version

/-- Two numbers with a point between them. -/
def windowsAt? (cs : List Char) : Option String := do
  let rest ← Text.behind? "Windows NT ".toList cs
  let major := rest.takeWhile Char.isDigit
  match major, rest.drop major.length with
  | _ :: _, '.' :: rest =>
    match rest.takeWhile Char.isDigit with
    | [] => none
    | minor => return String.ofList (major ++ '.' :: minor)
  | _, _ => none

def windowsRelease (version : String) : String :=
  match version with
  | "10.0" => ">=10"
  | "6.3" => "8.1"
  | "6.2" => "8"
  | "6.1" => "7"
  | "6.0" => "Vista"
  | "5.1" => "XP"
  | _ => unknown

/-- Name and version. -/
def system (ua : List Char) : String × String :=
  match numbersBehind? ["iPhone OS ", "CPU OS "] (· = '_') ua with
  | some numbers => ("iOS", dotted numbers)
  | none =>
    match android? ua with
    | some a => ("Android", String.ofList a.version)
    | none =>
      match numbersBehind? ["Mac OS X "] (fun c => c = '_' || c = '.') ua with
      | some numbers => ("Mac OS", macVersion numbers)
      | none =>
        match Text.first? windowsAt? ua with
        | some version => ("Windows NT", windowsRelease version)
        | none =>
          if mentions ["CrOS"] ua then ("Chrome OS", unknown)
          else if mentions ["Linux"] ua then ("Linux", unknown)
          else (unknown, unknown)

end PlaybackRelay.Agent

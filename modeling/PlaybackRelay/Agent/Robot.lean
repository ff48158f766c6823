import PlaybackRelay.Agent.Version
import PlaybackRelay.Text.Blank
import PlaybackRelay.Text.LowerCase
import PlaybackRelay.Text.Word

/-!
Attacks and crawlers. A crawler is known by its name, or has a name that ends like those of crawlers
in a part of the text that names products.
-/
namespace PlaybackRelay.Agent

/-- What attack tools and attack texts contain, in small letters. -/
def attackMarkers : List String :=
  ["<script", "sqlmap", "nikto", "masscan", "' or '", "union select", "$\x7bjndi:"]

def isAttack (ua : List Char) : Bool :=
  attackMarkers.any fun marker => Text.occurs marker (Text.lowerCase ua)

def attack : Agent where
  name := "Hacker"
  version := unknown
  kind := "Hacker"
  security := "Hacker"
  engine := "Hacker"
  deviceName := "Hacker"
  deviceKind := "Hacker"
  systemName := "Hacker"
  systemVersion := unknown

structure KnownRobot where
  token : String
  name : String
  device : String

def knownRobots : List KnownRobot := [
  ⟨"Applebot", "Applebot", "Apple BOT"⟩,
  ⟨"Googlebot", "Googlebot", "Google BOT"⟩,
  ⟨"AdsBot-Google", "AdsBot-Google", "Google BOT"⟩,
  ⟨"bingbot", "Bingbot", "Microsoft BOT"⟩,
  ⟨"YandexBot", "YandexBot", "Yandex BOT"⟩,
  ⟨"DuckDuckBot", "DuckDuckBot", "DuckDuckGo BOT"⟩,
  ⟨"Baiduspider", "Baiduspider", "Baidu BOT"⟩,
  ⟨"facebookexternalhit", "Facebookexternalhit", "Facebook BOT"⟩,
  ⟨"Twitterbot", "Twitterbot", "Twitter BOT"⟩]

def robot (name version device : String) : Agent where
  name := name
  version := version
  kind := "Robot"
  security := unknown
  engine := "Robot"
  deviceName := device
  deviceKind := "Robot"
  systemName := "Cloud"
  systemVersion := unknown

def knownRobot? (ua : List Char) : Option Agent :=
  knownRobots.findSome? fun r =>
    (Text.after? r.token ua).map fun rest => robot r.name (productVersion rest) r.device

def isProductComment (comment : List Char) : Bool :=
  Text.startsWith "compatible" (Text.lowerAscii (Text.trimStart comment))

/-- The parts that may name a crawler: all but comments on the platform, each of which gives way to
a blank. A comment that is open has its characters in reverse. -/
def candidatesFrom : Option (List Char) → List Char → List Char
  | none, [] => []
  | some comment, [] => '(' :: comment.reverse
  | none, c :: cs => if c = '(' then candidatesFrom (some []) cs else c :: candidatesFrom none cs
  | some comment, c :: cs =>
    if c = ')' then
      (if isProductComment comment.reverse then '(' :: comment.reverse ++ [')'] else [' ']) ++
        candidatesFrom none cs
    else candidatesFrom (some (c :: comment)) cs

def robotCandidates (ua : List Char) : List Char := candidatesFrom none ua

def crawlerEndings : List String := ["bot", "crawler", "spider"]

def isNameChar (c : Char) : Bool := Text.isWord c || c = '.' || c = '-'

def isVersionChar (c : Char) : Bool := isNameChar c || c = '~'

/-- The name, in reverse, ends like that of a crawler, and its last word ends there too. -/
def endsCrawlerName (name after : List Char) : Bool :=
  (crawlerEndings.any fun ending =>
    Text.fold (name.take ending.length) = ending.toList.reverse) &&
    Text.isWordBoundary name.head? after.head?

/-- Shortens a name, given in reverse, until it is that of a crawler. -/
def longestCrawlerName? : List Char → List Char → Option (List Char × List Char)
  | [], _ => none
  | c :: before, after =>
    if endsCrawlerName (c :: before) after then some ((c :: before).reverse, after)
    else longestCrawlerName? before (c :: after)

/-- A crawler's name with its version, in front of other text. -/
def crawlerAt? (cs : List Char) : Option Agent :=
  let run := cs.takeWhile isNameChar
  (longestCrawlerName? run.reverse (cs.drop run.length)).map fun (name, rest) =>
    let version := match rest with
      | '/' :: rest => rest.takeWhile isVersionChar
      | _ => []
    robot (String.ofList name) (if version.isEmpty then unknown else String.ofList version) "Robot"

/-- The first crawler. A name starts with a word; behind its start no other name starts before the
end of the run of such characters. -/
def crawlerFrom (inName : Bool) : List Char → Option Agent
  | [] => none
  | c :: cs =>
    if inName then crawlerFrom (isNameChar c) cs
    else if Text.isWord c then (crawlerAt? (c :: cs)).or (crawlerFrom true cs)
    else crawlerFrom false cs

def crawler? (candidates : List Char) : Option Agent := crawlerFrom false candidates

def robot? (ua : List Char) : Option Agent :=
  (knownRobot? ua).or (crawler? (robotCandidates ua))

end PlaybackRelay.Agent

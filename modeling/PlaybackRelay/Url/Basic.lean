import PlaybackRelay.Url.Path

/-!
Absolute URLs as browsers read them. Main function: `Url.parse`.
-/
namespace PlaybackRelay

/-- A path without segments is one that does not start with a slash. -/
structure Url where
  scheme : List Char
  host : Option (List Char)
  segments : List (List Char)

namespace Url

/-- Schemes that are known to have an authority, schemes of files, and all others. -/
inductive Kind where
  | network
  | file
  | other
deriving DecidableEq, Repr

def Kind.ofScheme (scheme : List Char) : Kind :=
  match String.ofList scheme with
  | "http" | "https" | "ws" | "wss" | "ftp" => .network
  | "file" => .file
  | _ => .other

def isSlash (c : Char) : Bool := c = '/' || c = '\\'

def isInScheme (c : Char) : Bool := c.isAlphanum || c = '+' || c = '-' || c = '.'

/-- The scheme in small letters and the text behind its colon. -/
def scheme? (cs : List Char) : Option (List Char × List Char) :=
  let written := cs.takeWhile fun c => isInScheme c || Path.isBreak c
  let scheme := Path.unbroken written
  match scheme, cs.drop written.length with
  | c :: _, ':' :: rest => if c.isAlpha then some (scheme.map Char.toLower, rest) else none
  | _, _ => none

/-- Where the authority of a URL ends. -/
def endsAuthority (kind : Kind) (c : Char) : Bool :=
  c = '/' || c = '?' || c = '#' || (kind ≠ .other && c = '\\')

/-- The text behind the credentials, and whether there are any. The last sign in the authority ends
them. -/
def afterCredentials (kind : Kind) (cs : List Char) : Except ParseError (List Char × Bool) :=
  let authority := cs.takeWhile (!endsAuthority kind ·)
  let host := (authority.reverse.takeWhile (· ≠ '@')).reverse
  if host.length = authority.length then .ok (cs, false)
  else
    let credentials := authority.take (authority.length - host.length - 1)
    let rest := cs.drop (credentials.length + 1)
    if credentials.isEmpty ∧ rest.head?.any (endsAuthority kind) then .error .emptyHost
    else .ok (rest, credentials ≠ [] ∧ credentials ≠ [':'])

/-- The text of the host and what follows it; a colon between square brackets belongs to it. -/
def splitHost (kind : Kind) : Bool → List Char → List Char × List Char
  | _, [] => ([], [])
  | inBrackets, c :: cs =>
    if endsAuthority kind c ∨ (c = ':' ∧ !inBrackets) then ([], c :: cs)
    else
      let inBrackets := c = '[' || (inBrackets && c ≠ ']')
      let (host, rest) := splitHost kind inBrackets cs
      (c :: host, rest)

/-- The text behind the port. -/
def afterPort : List Char → Except ParseError (List Char)
  | ':' :: cs =>
    let digits := cs.takeWhile Char.isDigit
    let rest := cs.drop digits.length
    let port := digits.foldl (fun n c => 10 * n + (c.toNat - '0'.toNat)) 0
    if 65535 < port then .error .invalidPort
    else if rest.head?.all fun c => c = '/' || c = '\\' || c = '?' || c = '#' then .ok rest
    else .error .invalidPort
  | cs => .ok cs

def withAuthority (scheme : List Char) (kind : Kind) (cs : List Char) : Except ParseError Url := do
  let (cs, hasCredentials) ← afterCredentials kind cs
  let (host, rest) := splitHost kind false cs
  if host.isEmpty ∧ (kind = .network ∨ hasCredentials ∨ rest.head? = some ':') then throw .emptyHost
  let host ← if kind = .network then Host.parse host else Host.parseOther host
  let rest ← afterPort rest
  return {
    scheme
    host := if host.isEmpty then none else some host
    segments := (Path.afterAuthority (kind = .network) rest).segments }

/-- A path of a file has no empty segment in front of another, and a drive in front belongs to no
host. -/
def ofFile (scheme : List Char) (host : Option (List Char)) (cs : List Char) : Url :=
  let path := Path.afterAuthority true cs
  match path.segments.dropWhile List.isEmpty with
  | [] => ⟨scheme, host, [[]]⟩
  | segments => ⟨scheme, if path.namesDrive then none else host, segments⟩

def localHost : List Char := "localhost".toList

def behindSlash? (cs : List Char) : Option (List Char) :=
  match cs.dropWhile Path.isBreak with
  | c :: cs => if isSlash c then some cs else none
  | [] => none

/-- Breaks still stand in the text, because they tell a drive from the start of a longer segment. -/
def parseFile (scheme : List Char) (cs : List Char) : Except ParseError Url :=
  match (behindSlash? cs).bind behindSlash? with
  | some rest => do
    let written := rest.takeWhile fun c => !isSlash c && c ≠ '?' && c ≠ '#'
    let host := Path.unbroken written
    if host.isEmpty ∨ Path.isDrive host then return ofFile scheme none rest
    let parsed ← Host.parse host
    return ofFile scheme (if parsed = localHost then none else some parsed)
      (rest.drop written.length)
  | none => .ok (ofFile scheme none cs)

/-- Controls and blanks around a URL do not count. -/
def trim (cs : List Char) : List Char :=
  ((cs.dropWhile (· ≤ ' ')).reverse.dropWhile (· ≤ ' ')).reverse

def parse (text : List Char) : Except ParseError Url :=
  match scheme? (trim text) with
  | none => .error .relative
  | some (scheme, rest) =>
    match Kind.ofScheme scheme with
    | .file => parseFile scheme rest
    | .network => withAuthority scheme .network ((Path.unbroken rest).dropWhile isSlash)
    | .other =>
      match Path.unbroken rest with
      | '/' :: '/' :: rest => withAuthority scheme .other rest
      | '/' :: rest =>
        .ok ⟨scheme, none, (Path.resolve .root (Path.split false (Path.text rest))).segments⟩
      | _ => .ok ⟨scheme, none, []⟩

end Url
end PlaybackRelay

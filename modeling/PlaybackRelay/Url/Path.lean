import PlaybackRelay.Url.Host

/-!
Paths of URLs as lists of segments. Segments of dots are resolved as they are read.
-/
namespace PlaybackRelay.Url.Path

def isEscaped (c : Char) : Bool :=
  c ≤ ' ' || c = '\x7f' || ['"', '#', '<', '>', '?', '`', '\x7b', '\x7d'].contains c

/-- Writes each escaped dot as a dot. -/
def plainDots : List Char → List Char
  | '%' :: '2' :: 'e' :: cs => '.' :: plainDots cs
  | '%' :: '2' :: 'E' :: cs => '.' :: plainDots cs
  | c :: cs => c :: plainDots cs
  | [] => []

def isHere (segment : List Char) : Bool := plainDots segment = ['.']

def isParent (segment : List Char) : Bool := plainDots segment = ['.', '.']

/-- A letter with a colon or a bar, and behind it nothing or a backslash that is no slash. -/
def startsWithDrive : List Char → Bool
  | letter :: colon :: rest =>
    letter.isAlpha && (colon = ':' || colon = '|') && rest.head?.all (· = '\\')
  | _ => false

def isDrive (segment : List Char) : Bool := segment.length = 2 && startsWithDrive segment

def isBreak (c : Char) : Bool := c = '\t' || c = '\n' || c = '\r'

/-- Tabs and line ends do not count. -/
def unbroken (cs : List Char) : List Char := cs.filter (!isBreak ·)

/-- The drive of a segment that goes on behind a break, and what follows the break. -/
def brokenDrive? (segment : List Char) : Option (List Char × List Char) :=
  match segment.dropWhile isBreak with
  | letter :: rest =>
    match rest.dropWhile isBreak with
    | ':' :: rest =>
      let behind := unbroken rest
      if letter.isAlpha ∧ rest.head?.any isBreak ∧ behind ≠ [] then some ([letter, ':'], behind)
      else none
    | _ => none
  | [] => none

/-- The segments of a path without dots; `namesDrive` tells that the first one was written as a
drive. -/
structure Resolved where
  segments : List (List Char)
  namesDrive : Bool

namespace Resolved

def root : Resolved := ⟨[], false⟩

/-- Leaves the last segment, unless it starts with a drive. -/
def parent (p : Resolved) : Resolved :=
  if p.segments.getLast?.any startsWithDrive then p
  else { p with segments := p.segments.dropLast }

/-- A path that ends in dots ends in a slash. -/
def close (p : Resolved) (rest : List (List Char)) : Resolved :=
  if rest.isEmpty then { p with segments := p.segments ++ [[]] } else p

/-- In front of a path, a drive with a break behind it is a segment of its own. -/
def push (p : Resolved) (segment : List Char) : Resolved :=
  match p.segments, brokenDrive? segment with
  | [], some (drive, behind) => { p with segments := [drive, percentEncode isEscaped behind] }
  | segments, _ =>
    let segment := unbroken segment
    { segments := segments ++ [percentEncode isEscaped segment]
      namesDrive := p.namesDrive || (segments.isEmpty && isDrive segment) }

end Resolved

/-- Resolves the remaining segments behind those of `p`. -/
def resolve (p : Resolved) : List (List Char) → Resolved
  | [] => p
  | segment :: rest =>
    if isParent (unbroken segment) then resolve (p.parent.close rest) rest
    else if isHere (unbroken segment) then resolve (p.close rest) rest
    else resolve (p.push segment) rest

/-- The text before a query or a fragment. -/
def text (cs : List Char) : List Char := cs.takeWhile fun c => c ≠ '?' ∧ c ≠ '#'

/-- The segments as they stand, where backslashes may count as slashes. -/
def split (backslashes : Bool) (cs : List Char) : List (List Char) :=
  Text.splitAtChar '/' (cs.map fun c => if backslashes ∧ c = '\\' then '/' else c)

/-- The path behind an authority. -/
def afterAuthority (backslashes : Bool) (cs : List Char) : Resolved :=
  match text cs with
  | '/' :: cs => resolve .root (split backslashes cs)
  | '\\' :: cs =>
    resolve .root (if backslashes then split true cs else split false ('\\' :: cs))
  | cs => if cs.isEmpty ∧ !backslashes then .root else resolve .root (split backslashes cs)

end PlaybackRelay.Url.Path

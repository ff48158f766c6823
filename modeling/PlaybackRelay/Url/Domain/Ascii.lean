import PlaybackRelay.Url.Domain.Direction
import PlaybackRelay.Url.Domain.Joining
import PlaybackRelay.Url.Domain.Mapping
import PlaybackRelay.Url.Domain.Punycode

/-!
The ASCII form of a domain name. Main function: `toAscii?`, which maps the characters, checks each
label and writes those with other characters in Punycode.
-/
namespace PlaybackRelay.Url.Domain

open Text (splitAtChar)

/-- The ASCII characters that no domain may hold. -/
def isForbidden (c : Char) : Bool :=
  c ≤ ' ' || c = '\x7f' || "%#/:<>?@[\\]^|".toList.contains c

def isAscii (c : Char) : Bool := c.toNat < 0x80

def codedMark : List Char := "xn--".toList

/-- Longer texts behind the mark are not decoded. -/
def maxCoded : Nat := 2000

/-- A label with characters beyond ASCII may not be longer than this. -/
def maxRead : Nat := 1000

def fits (label : List Char) : Bool := label.all isAscii || label.length ≤ maxRead

/-- A forbidden character that composes with what follows it does not count. -/
def mapAll? (cs : List Char) : Option (List Char) := do
  let composed := composedForm (← cs.mapM mapChar?).flatten
  if composed.any isForbidden then none else return composed

/-- The mapping would leave the label as it is. -/
def isStable (label : List Char) : Bool := mapAll? label == some label

def startsWithMark (label : List Char) : Bool := label.head?.any markTable.contains

/-- A label as it is written and as it is read. -/
structure Label where
  written : List Char
  read : List Char

def Label.ofCoded? (label : List Char) : Option Label := do
  let coded := label.drop codedMark.length
  if !coded.all isAscii ∨ coded.getLast?.all (· = '-') ∨ maxCoded < coded.length then none
  else
    let read ← Punycode.decode? coded
    if isStable read ∧ fits read then return ⟨label, read⟩ else none

def Label.of? (label : List Char) : Option Label :=
  if codedMark.isPrefixOf label then Label.ofCoded? label
  else if label.all isAscii then some ⟨label, label⟩
  else if fits label then some ⟨codedMark ++ Punycode.encode label, label⟩
  else none

def Label.isAllowed (l : Label) : Bool :=
  !startsWithMark l.read && joinersAllowed [] l.read

def toAscii? (domain : List Char) : Option (List Char) := do
  let labels ← (splitAtChar '.' (← mapAll? domain)).mapM Label.of?
  let rightToLeft := labels.any fun l => l.read.any isRightToLeft
  if labels.all fun l => l.isAllowed && (!rightToLeft || hasOneDirection l.read) then
    return ['.'].intercalate (labels.map Label.written)
  else none

end PlaybackRelay.Url.Domain

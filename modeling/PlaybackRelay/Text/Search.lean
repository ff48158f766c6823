/-!
Finding one text inside another, and comparing texts without regard to case.
-/
namespace PlaybackRelay.Text

/-- What a scanner finds at the first place where it finds anything. -/
def first? {α : Type} (scan : List Char → Option α) : List Char → Option α
  | [] => scan []
  | c :: cs => (scan (c :: cs)).or (first? scan cs)

/-- The text behind a known beginning. -/
def behind? (start : List Char) (cs : List Char) : Option (List Char) :=
  if start.isPrefixOf cs then some (cs.drop start.length) else none

def startsWith (start : String) (cs : List Char) : Bool := start.toList.isPrefixOf cs

/-- The text behind the first occurrence. -/
def after? (part : String) (cs : List Char) : Option (List Char) :=
  first? (behind? part.toList) cs

def occurs (part : String) (cs : List Char) : Bool := (after? part cs).isSome

/-- Where the last occurrence starts when occurrences are counted from the left and do not overlap;
`skip` characters still belong to the one before. -/
def lastStartFrom (part : List Char) : Nat → Nat → List Char → Option Nat
  | _, _, [] => none
  | position, skip + 1, _ :: cs => lastStartFrom part (position + 1) skip cs
  | position, 0, c :: cs =>
    if part.isPrefixOf (c :: cs) then
      (lastStartFrom part (position + 1) (part.length - 1) cs).or (some position)
    else lastStartFrom part (position + 1) 0 cs

def lastStart? (part : String) (cs : List Char) : Option Nat := lastStartFrom part.toList 0 0 cs

def lowerAscii (cs : List Char) : List Char := cs.map Char.toLower

def equalIgnoringAsciiCase (a b : List Char) : Bool := lowerAscii a == lowerAscii b

def startsWithIgnoringAsciiCase (start : String) (cs : List Char) : Bool :=
  (lowerAscii start.toList).isPrefixOf (lowerAscii cs)

/-- The case folding of single characters as far as it reaches ASCII: the letters themselves, the
long s and the Kelvin sign. -/
def foldChar (c : Char) : Char :=
  if c = 'ſ' then 's' else if c = '\u212a' then 'k' else c.toLower

def fold (cs : List Char) : List Char := cs.map foldChar

end PlaybackRelay.Text

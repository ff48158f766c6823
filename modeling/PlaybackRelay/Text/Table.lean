/-!
Tables over code points. A table is written as text: items between blanks or line ends, each with
hexadecimal bounds and, behind a colon, the value that holds for the whole span. Spans ascend and do
not overlap.
-/
namespace PlaybackRelay.Text

structure Span (α : Type) where
  first : Nat
  last : Nat
  value : α
deriving Inhabited

abbrev Table (α : Type) := Array (Span α)

def splitAtChar (separator : Char) : List Char → List (List Char)
  | [] => [[]]
  | c :: cs =>
    if c = separator then [] :: splitAtChar separator cs
    else
      match splitAtChar separator cs with
      | [] => [[c]]
      | part :: parts => (c :: part) :: parts

/-- The items of a written table. -/
def items (text : String) : List (List Char) :=
  (splitAtChar ' ' (text.toList.map fun c => if c = '\n' then ' ' else c)).filter (!·.isEmpty)

def hexNumber (cs : List Char) : Nat :=
  cs.foldl (fun n c => 16 * n + (if c.isDigit then c.toNat - 48 else c.toNat - 87)) 0

namespace Table

variable {α : Type}

/-- Bisects the spans from `low` on and before `high`. -/
def search [Inhabited α] (t : Table α) (n low high : Nat) : Option (Span α) :=
  if low < high then
    let middle := (low + high) / 2
    let span := t[middle]!
    if n < span.first then search t n low middle
    else if span.last < n then search t n (middle + 1) high
    else some span
  else none
termination_by high - low

def find? [Inhabited α] (t : Table α) (n : Nat) : Option (Span α) := search t n 0 t.size

def contains [Inhabited α] (t : Table α) (c : Char) : Bool := (t.find? c.toNat).isSome

def item (value : List Char → α) (cs : List Char) : Span α :=
  let (bounds, written) := match splitAtChar ':' cs with
    | bounds :: written :: _ => (bounds, written)
    | bounds :: [] => (bounds, [])
    | [] => ([], [])
  match splitAtChar '-' bounds with
  | first :: last :: _ => ⟨hexNumber first, hexNumber last, value written⟩
  | _ => ⟨hexNumber bounds, hexNumber bounds, value written⟩

def ofText (value : List Char → α) (text : String) : Table α :=
  ((items text).map (item value)).toArray

end Table

/-- A set of code points. -/
def charSet (text : String) : Table Unit := Table.ofText (fun _ => ()) text

/-- How the characters of a span are replaced: the first by `start` and each further one by the next
code point, the same for every second character only, or all of them by one sequence. -/
inductive Replacement where
  | shift (start : Nat)
  | alternate (start : Nat)
  | constant (targets : List Nat)
deriving Inhabited

def Replacement.ofText : List Char → Replacement
  | '~' :: start => .alternate (hexNumber start)
  | '=' :: target => .constant [hexNumber target]
  | written =>
    match splitAtChar '.' written with
    | [start] => .shift (hexNumber start)
    | targets => .constant (targets.map hexNumber)

/-- The replacement of the character at a distance from the first one of its span. -/
def Replacement.at? : Replacement → Nat → Option (List Char)
  | .shift start, distance => some [Char.ofNat (start + distance)]
  | .alternate start, distance =>
    if distance % 2 = 0 then some [Char.ofNat (start + distance)] else none
  | .constant targets, _ => some (targets.map Char.ofNat)

def replacementTable (text : String) : Table Replacement := Table.ofText Replacement.ofText text

/-- The replacement of a character, if the table has one. -/
def Table.replace? (t : Table Replacement) (c : Char) : Option (List Char) :=
  (t.find? c.toNat).bind fun span => span.value.at? (c.toNat - span.first)

end PlaybackRelay.Text

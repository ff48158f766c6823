import PlaybackRelay.Text.Decimal
import PlaybackRelay.Text.Table

/-!
Network addresses as hosts of a URL: dotted numbers in any of their short and based forms, and the
pieces of the long addresses with one run of zeros left out.
-/
namespace PlaybackRelay.Url.Address

open Text (decimal splitAtChar)

def digitValue? (c : Char) : Option Nat :=
  if c.isDigit then some (c.toNat - '0'.toNat)
  else if 'a' ≤ c ∧ c ≤ 'f' then some (c.toNat - 'a'.toNat + 10)
  else if 'A' ≤ c ∧ c ≤ 'F' then some (c.toNat - 'A'.toNat + 10)
  else none

/-- A number without sign in a base; no digits denote zero. -/
def number? (base : Nat) (cs : List Char) : Option Nat :=
  cs.foldlM (fun n c => do
    let d ← digitValue? c
    if d < base then return base * n + d else none) 0

/-- One number of a dotted address: hexadecimal behind `0x`, octal behind another zero. -/
def part? : List Char → Option Nat
  | [] => none
  | '0' :: 'x' :: digits => number? 16 digits
  | '0' :: 'X' :: digits => number? 16 digits
  | ['0'] => some 0
  | '0' :: digits => number? 8 digits
  | digits => number? 10 digits

/-- A last empty part does not count. -/
def parts (host : List Char) : List (List Char) :=
  match (splitAtChar '.' host).reverse with
  | [] :: rest => rest.reverse
  | all => all.reverse

/-- Such a host is an address or nothing. -/
def endsInNumber (host : List Char) : Bool :=
  match (splitAtChar '.' host).reverse with
  | [] :: last :: _ => isNumber last
  | last :: _ => isNumber last
  | [] => false
where
  isNumber (last : List Char) : Bool :=
    (!last.isEmpty && last.all Char.isDigit) || (part? last).isSome

/-- The last number fills all bytes that the others leave. -/
def dotted? (host : List Char) : Option Nat := do
  let numbers ← (parts host).mapM part?
  let last ← numbers.getLast?
  let leading := numbers.dropLast
  if 3 < leading.length ∨ leading.any (255 < ·) ∨ Nat.pow 256 (4 - leading.length) ≤ last
  then none
  else return leading.foldl (fun n x => 256 * n + x) 0 * Nat.pow 256 (4 - leading.length) + last

def dottedText (n : Nat) : List Char :=
  ['.'].intercalate
    [decimal (n >>> 24), decimal ((n >>> 16) % 256), decimal ((n >>> 8) % 256), decimal (n % 256)]

/-- Up to `most` hexadecimal digits: their value and the rest. -/
def takeHex : Nat → Nat → List Char → Nat × List Char
  | 0, value, cs => (value, cs)
  | _, value, [] => (value, [])
  | most + 1, value, c :: cs =>
    match digitValue? c with
    | some d => takeHex most (16 * value + d) cs
    | none => (value, c :: cs)

/-- A byte in decimal digits without leading zeros. -/
def byte? (cs : List Char) : Option Nat := do
  let n ← number? 10 cs
  if decimal n = cs ∧ n < 256 then return n else none

/-- A dotted address at the end of a long one counts as two pieces. -/
def embedded? (cs : List Char) : Option (List Nat) := do
  match ← (splitAtChar '.' cs).mapM byte? with
  | [a, b, c, d] => return [256 * a + b, 256 * c + d]
  | _ => none

/-- The pieces of a long address and the number of those before the gap, which takes the room of at
least one piece. -/
structure Pieces where
  done : List Nat
  gap : Option Nat

def readPieces : Nat → Pieces → List Char → Option Pieces
  | _, p, [] => some p
  | 0, _, _ :: _ => none
  | room + 1, p, ':' :: cs =>
    if p.gap.isSome then none else readPieces room { p with gap := some p.done.length } cs
  | room + 1, p, c :: cs => do
    let (value, rest) := takeHex 4 0 (c :: cs)
    let next : Pieces := { p with done := p.done ++ [value] }
    match rest with
    | [] => return next
    | ':' :: rest => if rest.isEmpty then none else readPieces room next rest
    | '.' :: _ =>
      if room = 0 ∨ (digitValue? c).isNone then none
      else return { p with done := p.done ++ (← embedded? (c :: cs)) }
    | _ :: _ => none

def pieces? (cs : List Char) : Option (List Nat) := do
  let p ← match cs with
    | ':' :: ':' :: rest => readPieces 7 ⟨[], some 0⟩ rest
    | ':' :: _ => none
    | _ => readPieces 8 ⟨[], none⟩ cs
  match p.gap with
  | some before =>
    return p.done.take before ++ List.replicate (8 - p.done.length) 0 ++ p.done.drop before
  | none => if p.done.length = 8 then return p.done else none

/-- The first of the longest runs of zeros: where it starts and how long it is. -/
def longestZeros (pieces : List Nat) : Nat × Nat :=
  (List.range pieces.length).foldl (fun best start =>
    let length := ((pieces.drop start).takeWhile (· = 0)).length
    if best.2 < length then (start, length) else best) (0, 0)

def hexPieces (pieces : List Nat) : List Char :=
  [':'].intercalate (pieces.map (Nat.toDigits 16))

/-- A single zero is not left out. -/
def piecesText (pieces : List Nat) : List Char :=
  let (start, length) := longestZeros pieces
  if length < 2 then hexPieces pieces
  else hexPieces (pieces.take start) ++ [':', ':'] ++ hexPieces (pieces.drop (start + length))

end PlaybackRelay.Url.Address

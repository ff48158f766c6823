/-!
Punycode: a label of any characters written with letters, digits and hyphens. The ASCII characters
come first; the others follow as a run of numbers that say which character comes next and where.
-/
namespace PlaybackRelay.Url.Domain.Punycode

def firstCode : Nat := 0x80

def firstBias : Nat := 72

def firstPlace : Nat := 36

def digitValue? (c : Char) : Option Nat :=
  if 'a' ≤ c ∧ c ≤ 'z' then some (c.toNat - 'a'.toNat)
  else if 'A' ≤ c ∧ c ≤ 'Z' then some (c.toNat - 'A'.toNat)
  else if '0' ≤ c ∧ c ≤ '9' then some (c.toNat - '0'.toNat + 26)
  else none

def digitChar (d : Nat) : Char :=
  if d < 26 then Char.ofNat ('a'.toNat + d) else Char.ofNat ('0'.toNat + (d - 26))

/-- A digit below its threshold is the last one of its number. Places count in steps of 36. -/
def threshold (place bias : Nat) : Nat :=
  if place ≤ bias then 1 else if bias + 26 ≤ place then 26 else place - bias

theorem threshold_pos (place bias : Nat) : 0 < threshold place bias := by
  unfold threshold
  split <;> try split
  all_goals omega

def adaptSteps (delta bias : Nat) : Nat :=
  if 455 < delta then adaptSteps (delta / 35) (bias + 36) else bias + 36 * delta / (delta + 38)
termination_by delta
decreasing_by exact Nat.div_lt_self (by omega) (by omega)

/-- The bias after a number has been read or written; `length` counts the characters so far. -/
def adapt (delta length : Nat) (first : Bool) : Nat :=
  let delta := if first then delta / 700 else delta / 2
  adaptSteps (delta + delta / length) 0

/-- The digits read so far. `start` is the place in `out` behind the character placed last, and
`index` is what the digits of the current number have added to it. -/
structure Decoding where
  out : List Char
  code : Nat
  bias : Nat
  start : Nat
  index : Nat
  weight : Nat
  place : Nat

def Decoding.begin (basic : List Char) : Decoding :=
  ⟨basic, firstCode, firstBias, 0, 0, 1, firstPlace⟩

/-- The current number is complete, and its character is put in place. -/
def Decoding.insert (s : Decoding) (index : Nat) : Option Decoding :=
  let length := s.out.length + 1
  let code := s.code + index / length
  let position := index % length
  if h : code.isValidChar then
    some {
      out := s.out.take position ++ Char.ofNatAux code h :: s.out.drop position
      code := code
      bias := adapt (index - s.start) length (s.start = 0)
      start := position + 1
      index := position + 1
      weight := 1
      place := firstPlace }
  else none

def Decoding.step (s : Decoding) (c : Char) : Option Decoding := do
  let d ← digitValue? c
  let t := threshold s.place s.bias
  let index := s.index + d * s.weight
  if d < t then s.insert index
  else return { s with index, weight := s.weight * (36 - t), place := s.place + 36 }

/-- The last hyphen ends the ASCII characters, unless it is the first character. -/
def splitBasic (cs : List Char) : List Char × List Char :=
  let digits := (cs.reverse.takeWhile (· ≠ '-')).reverse
  let basic := cs.take (cs.length - digits.length - 1)
  if basic.isEmpty then ([], cs) else (basic, digits)

def decode? (cs : List Char) : Option (List Char) := do
  let (basic, digits) := splitBasic cs
  let s ← digits.foldlM Decoding.step (Decoding.begin basic)
  if s.place = firstPlace then return s.out else none

def digits (bias place n : Nat) : List Char :=
  let t := threshold place bias
  if n < t then [digitChar n]
  else digitChar (t + (n - t) % (36 - t)) :: digits bias (place + 36) ((n - t) / (36 - t))
termination_by n
decreasing_by
  have := threshold_pos place bias
  exact Nat.lt_of_le_of_lt (Nat.div_le_self _ _) (by omega)

structure Encoding where
  out : List Char
  delta : Nat
  bias : Nat
  written : Nat

/-- Passes one character while those of the given code are being written. -/
def Encoding.pass (basic code : Nat) (s : Encoding) (c : Char) : Encoding :=
  if c.toNat < code then { s with delta := s.delta + 1 }
  else if c.toNat = code then {
    out := s.out ++ digits s.bias firstPlace s.delta
    delta := 0
    bias := adapt s.delta (s.written + 1) (s.written = basic)
    written := s.written + 1 }
  else s

/-- Writes the characters of each code in ascending order; those below `next` are written. -/
def Encoding.writeCodes (cs : List Char) (basic : Nat) : List Nat → Nat → Encoding → Encoding
  | [], _, s => s
  | code :: codes, next, s =>
    let s := { s with delta := s.delta + (code - next) * (s.written + 1) }
    let s := cs.foldl (Encoding.pass basic code) s
    writeCodes cs basic codes (code + 1) { s with delta := s.delta + 1 }

def encode (cs : List Char) : List Char :=
  let basic := cs.filter (·.toNat < firstCode)
  let codes := ((cs.filter (firstCode ≤ ·.toNat)).map Char.toNat).eraseDups.mergeSort
  let s := Encoding.writeCodes cs basic.length codes firstCode ⟨[], 0, firstBias, basic.length⟩
  basic ++ (if basic.isEmpty then [] else ['-']) ++ s.out

end PlaybackRelay.Url.Domain.Punycode

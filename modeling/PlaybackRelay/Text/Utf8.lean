/-!
UTF-8. Main functions: `encode`, `decode?` and `decodeLossy`, which puts one replacement character
for each longest piece that begins a character and does not complete it.
-/
namespace PlaybackRelay.Text.Utf8

def encode (cs : List Char) : List UInt8 := cs.flatMap String.utf8EncodeChar

/-- A character of which `left` more bytes are missing. The next one lies between two bounds. -/
structure Begun where
  code : Nat
  left : Nat
  low : Nat
  high : Nat

/-- The bounds on the second byte rule out long forms, surrogates and codes beyond the last one. -/
def begin? (b : Nat) : Option Begun :=
  if 0xC2 ≤ b ∧ b ≤ 0xDF then some ⟨b - 0xC0, 0, 0x80, 0xBF⟩
  else if b = 0xE0 then some ⟨0, 1, 0xA0, 0xBF⟩
  else if b = 0xED then some ⟨0xD, 1, 0x80, 0x9F⟩
  else if 0xE1 ≤ b ∧ b ≤ 0xEF then some ⟨b - 0xE0, 1, 0x80, 0xBF⟩
  else if b = 0xF0 then some ⟨0, 2, 0x90, 0xBF⟩
  else if 0xF1 ≤ b ∧ b ≤ 0xF3 then some ⟨b - 0xF0, 2, 0x80, 0xBF⟩
  else if b = 0xF4 then some ⟨4, 2, 0x80, 0x8F⟩
  else none

/-- A byte that begins a character: a whole one, a part of one, or none. -/
def start (b : Nat) : List (Option Char) × Option Begun :=
  if b < 0x80 then ([some (Char.ofNat b)], none)
  else
    match begin? b with
    | some begun => ([], some begun)
    | none => ([none], none)

def step (begun : Option Begun) (b : Nat) : List (Option Char) × Option Begun :=
  match begun with
  | none => start b
  | some s =>
    if s.low ≤ b ∧ b ≤ s.high then
      let code := 64 * s.code + (b - 0x80)
      match s.left with
      | 0 => ([some (Char.ofNat code)], none)
      | left + 1 => ([], some ⟨code, left, 0x80, 0xBF⟩)
    else
      let (pieces, next) := start b
      (none :: pieces, next)

/-- The characters of a text, with `none` for each malformed piece. -/
def pieces : Option Begun → List UInt8 → List (Option Char)
  | none, [] => []
  | some _, [] => [none]
  | begun, b :: bs =>
    let (done, next) := step begun b.toNat
    done ++ pieces next bs

def decode? (bs : List UInt8) : Option (List Char) := (pieces none bs).mapM id

def replacement : Char := '\ufffd'

def decodeLossy (bs : List UInt8) : List Char := (pieces none bs).map (·.getD replacement)

end PlaybackRelay.Text.Utf8

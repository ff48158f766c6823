import PlaybackRelay.Json.Basic
import PlaybackRelay.Json.Encoding
import PlaybackRelay.Text.Utf16

/-!
The tokens of JSON. Each scanner takes the text that is left and returns what it read with the text
behind it, or the first fault that reading from left to right meets.
-/
namespace PlaybackRelay.Json

open Text.Utf16 (isHighSurrogate isLowSurrogate ofSurrogates)

/-- Why a text is not the wanted value: it ends early, it is not JSON, or it is JSON of another
shape. -/
inductive Fault where
  | truncated
  | malformed
  | mismatched
deriving DecidableEq, Repr

/-- A value with the text behind it. -/
abbrev Scanned (α : Type) := α × List Char

def isBlank (c : Char) : Bool := c = ' ' || c = '\n' || c = '\t' || c = '\r'

def skipBlanks (cs : List Char) : List Char := cs.dropWhile isBlank

/-- The rest of a literal name. -/
def scanLiteral : List Char → List Char → Except Fault (List Char)
  | [], cs => .ok cs
  | _ :: _, [] => .error .truncated
  | w :: ws, c :: cs => if c = w then scanLiteral ws cs else .error .malformed

def digit? (c : Char) : Option (Fin 10) :=
  if h : '0'.toNat ≤ c.toNat ∧ c.toNat ≤ '9'.toNat then
    some ⟨c.toNat - '0'.toNat, by
      have h0 : '0'.toNat = 48 := rfl
      have h9 : '9'.toNat = 57 := rfl
      omega⟩
  else none

def scanDigits : List Char → List (Fin 10) × List Char
  | [] => ([], [])
  | c :: cs =>
    match digit? c with
    | some d => let (ds, rest) := scanDigits cs; (d :: ds, rest)
    | none => ([], c :: cs)

/-- The digits before the point; `cut` is the fault of a text that ends where a digit must stand. -/
def scanWhole (cut : Fault) : List Char → Except Fault (Scanned Nat)
  | [] => .error cut
  | c :: cs =>
    match digit? c with
    | none => .error .malformed
    | some 0 =>
      match cs with
      | next :: _ => if (digit? next).isSome then .error .malformed else .ok (0, cs)
      | [] => .ok (0, [])
    | some d =>
      let (ds, rest) := scanDigits cs
      .ok ((d :: ds).foldl (fun n x => 10 * n + x.val) 0, rest)

def scanSomeDigits (cut : Fault) (cs : List Char) : Except Fault (Scanned Digits) :=
  match scanDigits cs with
  | (d :: ds, rest) => .ok (⟨d, ds⟩, rest)
  | ([], []) => .error cut
  | ([], _ :: _) => .error .malformed

def scanFraction (cut : Fault) : List Char → Except Fault (Scanned (Option Digits))
  | '.' :: cs => (scanSomeDigits cut cs).map fun (d, rest) => (some d, rest)
  | cs => .ok (none, cs)

def scanExponent (cut : Fault) : List Char → Except Fault (Scanned (Option Exponent))
  | c :: cs =>
    if c = 'e' ∨ c = 'E' then
      let (negative, digits) := match cs with
        | '-' :: rest => (true, rest)
        | '+' :: rest => (false, rest)
        | rest => (false, rest)
      (scanSomeDigits cut digits).map fun (d, rest) => (some ⟨negative, d⟩, rest)
    else .ok (none, c :: cs)
  | [] => .ok (none, [])

def scanNumber (cut : Fault) (cs : List Char) : Except Fault (Scanned Number) := do
  let (negative, unsigned) := match cs with
    | '-' :: rest => (true, rest)
    | rest => (false, rest)
  let (whole, cs) ← scanWhole cut unsigned
  let (fraction, cs) ← scanFraction cut cs
  let (exponent, cs) ← scanExponent cut cs
  return (⟨negative, whole, fraction, exponent⟩, cs)

/-- Where inside a string the scanner stands. A number in hexadecimal still lacks `left` digits;
`high` is the first half of a surrogate pair whose second half must follow at once. -/
inductive StringState where
  | plain
  | escape
  | hex (high : Option Nat) (left : Nat) (value : Nat)
  | pairSlash (high : Nat)
  | pairLetter (high : Nat)

def simpleEscape? (c : Char) : Option Char :=
  match c with
  | '"' => some '"'
  | '\\' => some '\\'
  | '/' => some '/'
  | 'b' => some '\x08'
  | 'f' => some '\x0c'
  | 'n' => some '\n'
  | 'r' => some '\r'
  | 't' => some '\t'
  | _ => none

def hexValue? (c : Char) : Option Nat :=
  let n := c.toNat
  if '0'.toNat ≤ n ∧ n ≤ '9'.toNat then some (n - '0'.toNat)
  else if 'a'.toNat ≤ n ∧ n ≤ 'f'.toNat then some (n - 'a'.toNat + 10)
  else if 'A'.toNat ≤ n ∧ n ≤ 'F'.toNat then some (n - 'A'.toNat + 10)
  else none

/-- Four bytes of text are left, enough for the digits of an escape. -/
def hasFourBytes [Encoding] (cs : List Char) : Bool :=
  4 ≤ (cs.take 4).foldl (fun bytes c => bytes + Encoding.size c) 0

/-- Puts an escaped character behind the others of a string, which are in reverse. -/
def pushEscaped [Encoding] (c : Char) (done : List Char) : List Char :=
  (Encoding.encode c).reverse ++ done

@[simp] theorem pushEscaped_characters (c : Char) (done : List Char) :
    pushEscaped c done = c :: done := rfl

/-- At the closing quote a string that is kept has to be a text. -/
def closeString [Encoding] (kept : Bool) (done cs : List Char) : Except Fault (Scanned String) :=
  match if kept then Encoding.decode? done.reverse else some done.reverse with
  | some text => .ok (String.ofList text, cs)
  | none => .error .malformed

@[simp] theorem closeString_characters (kept : Bool) (done cs : List Char) :
    closeString kept done cs = .ok (String.ofList done.reverse, cs) := by
  cases kept <;> rfl

/-- A string behind its opening quote. In one that is not kept a surrogate need not have its other
half, and is replaced. -/
def scanString [Encoding] (kept : Bool) :
    StringState → List Char → List Char → Except Fault (Scanned String)
  | _, _, [] => .error .truncated
  | .plain, done, c :: cs =>
    if c = '"' then closeString kept done cs
    else if c = '\\' then scanString kept .escape done cs
    else if c.toNat < 0x20 then .error .malformed
    else scanString kept .plain (c :: done) cs
  | .escape, done, c :: cs =>
    if c = 'u' then
      if hasFourBytes cs then scanString kept (.hex none 4 0) done cs else .error .truncated
    else
      match simpleEscape? c with
      | some x => scanString kept .plain (pushEscaped x done) cs
      | none => .error .malformed
  | .pairSlash high, done, c :: cs =>
    if c = '\\' then scanString kept (.pairLetter high) done cs else .error .malformed
  | .pairLetter high, done, c :: cs =>
    if c ≠ 'u' then .error .malformed
    else if hasFourBytes cs then scanString kept (.hex (some high) 4 0) done cs
    else .error .truncated
  | .hex high left value, done, c :: cs =>
    match hexValue? c with
    | none => .error .malformed
    | some d =>
      let n := 16 * value + d
      if 1 < left then scanString kept (.hex high (left - 1) n) done cs
      else
        match high with
        | some h =>
          if isLowSurrogate n then scanString kept .plain (pushEscaped (ofSurrogates h n) done) cs
          else .error .malformed
        | none =>
          if isHighSurrogate n ∧ kept then scanString kept (.pairSlash n) done cs
          else if isLowSurrogate n ∧ kept then .error .malformed
          else scanString kept .plain (pushEscaped (if isHighSurrogate n ∨ isLowSurrogate n then
            '\ufffd' else Char.ofNat n) done) cs

def scanText [Encoding] (cs : List Char) : Except Fault (Scanned String) :=
  scanString true .plain [] cs

end PlaybackRelay.Json

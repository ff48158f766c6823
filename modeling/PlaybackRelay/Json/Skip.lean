import PlaybackRelay.Json.Scan

/-!
Passing over a value that nobody wants. Nesting is unlimited, since the open brackets are a list and
no value is built; numbers and escapes are only checked digit by digit.
-/
namespace PlaybackRelay.Json

inductive Bracket where
  | square
  | curly
deriving DecidableEq, Repr

def Bracket.closing : Bracket → Char
  | .square => ']'
  | .curly => '}'

/-- What may come next: a value, the first item or the end of a container just opened, or what
follows a complete value. -/
inductive SkipState where
  | value
  | opened
  | complete

/-- A member's name with its colon. -/
def skipName [Encoding] (cs : List Char) : Except Fault (List Char) :=
  match skipBlanks cs with
  | [] => .error .truncated
  | '"' :: rest => do
    let (_, rest) ← scanString false .plain [] rest
    match skipBlanks rest with
    | [] => .error .truncated
    | ':' :: rest => .ok rest
    | _ :: _ => .error .malformed
  | _ :: _ => .error .malformed

/-- A literal, a string or a number. A text that ends inside a number counts as malformed here. -/
def skipScalar [Encoding] (cs : List Char) : Except Fault (List Char) :=
  match cs with
  | [] => .error .truncated
  | 'n' :: rest => scanLiteral "ull".toList rest
  | 't' :: rest => scanLiteral "rue".toList rest
  | 'f' :: rest => scanLiteral "alse".toList rest
  | '"' :: rest => (scanString false .plain [] rest).map Prod.snd
  | c :: rest =>
    if c = '-' ∨ (digit? c).isSome then (scanNumber .malformed (c :: rest)).map Prod.snd
    else .error .malformed

/-- Every step consumes a character, so as many steps as there are characters suffice. -/
def skipSteps [Encoding] : Nat → SkipState → List Bracket → List Char → Except Fault (List Char)
  | 0, _, _, _ => .error .truncated
  | fuel + 1, .value, stack, cs =>
    match skipBlanks cs with
    | '[' :: rest => skipSteps fuel .opened (.square :: stack) rest
    | '{' :: rest => skipSteps fuel .opened (.curly :: stack) rest
    | other => do
      let rest ← skipScalar other
      if stack.isEmpty then return rest
      skipSteps fuel .complete stack rest
  | fuel + 1, .opened, stack, cs =>
    match stack, skipBlanks cs with
    | [], rest => .ok rest
    | _ :: _, [] => .error .truncated
    | bracket :: outer, c :: rest =>
      if c = bracket.closing then
        if outer.isEmpty then .ok rest else skipSteps fuel .complete outer rest
      else if bracket = .curly then do
        let rest ← skipName (c :: rest)
        skipSteps fuel .value stack rest
      else skipSteps fuel .value stack (c :: rest)
  | fuel + 1, .complete, stack, cs =>
    match stack, skipBlanks cs with
    | [], rest => .ok rest
    | _ :: _, [] => .error .truncated
    | bracket :: outer, c :: rest =>
      if c = bracket.closing then
        if outer.isEmpty then .ok rest else skipSteps fuel .complete outer rest
      else if c ≠ ',' then .error .malformed
      else if bracket = .curly then do
        let rest ← skipName rest
        skipSteps fuel .value stack rest
      else skipSteps fuel .value stack rest

def skipValue [Encoding] (cs : List Char) : Except Fault (List Char) :=
  skipSteps (2 * cs.length + 2) .value [] cs

end PlaybackRelay.Json

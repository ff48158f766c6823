import PlaybackRelay.Json.Double
import PlaybackRelay.Json.Skip

/-!
Reading values from text. The first fault from left to right is reported, and nesting deeper than
`maxDepth` is malformed. An object whose first name is one of two reserved ones is no object but
holds a number or any other value as text.
-/
namespace PlaybackRelay.Json

/-- How many containers may be open at once in a value that is kept. -/
def maxDepth : Nat := 127

/-- The fault of a text that starts with a value of another kind than the wanted one. A scalar is
still read to its end, and its own faults come first. -/
def mismatch [Encoding] (cs : List Char) : Fault :=
  let after {α : Type} (scanned : Except Fault α) : Fault :=
    match scanned with
    | .ok _ => .mismatched
    | .error fault => fault
  match cs with
  | [] => .truncated
  | 'n' :: rest => after (scanLiteral "ull".toList rest)
  | 't' :: rest => after (scanLiteral "rue".toList rest)
  | 'f' :: rest => after (scanLiteral "alse".toList rest)
  | '"' :: rest => after (scanText rest)
  | '[' :: _ => .mismatched
  | '{' :: _ => .mismatched
  | c :: rest =>
    if c = '-' ∨ (digit? c).isSome then after (scanNumber .truncated (c :: rest)) else .malformed

/-- Behind an item of an array: `some` is the text of the next item, `none` with the rest is the
end. Before the first item no comma stands. -/
def nextItem (first : Bool) (cs : List Char) : Except Fault (Scanned Bool) :=
  match skipBlanks cs with
  | [] => .error .truncated
  | ']' :: rest => .ok (false, rest)
  | c :: rest =>
    if first then .ok (true, c :: rest)
    else if c ≠ ',' then .error .malformed
    else
      match skipBlanks rest with
      | [] => .error .truncated
      | ']' :: _ => .error .malformed
      | rest => .ok (true, rest)

/-- The name of the next member of an object, or its end. -/
def nextName [Encoding] (first : Bool) (cs : List Char) : Except Fault (Scanned (Option String)) :=
  let name (cs : List Char) : Except Fault (Scanned (Option String)) :=
    match skipBlanks cs with
    | [] => .error .truncated
    | '"' :: rest => (scanText rest).map fun (s, rest) => (some s, rest)
    | _ :: _ => .error .malformed
  match skipBlanks cs with
  | [] => .error .truncated
  | '}' :: rest => .ok (none, rest)
  | c :: rest =>
    if first then name (c :: rest) else if c = ',' then name rest else .error .malformed

def scanColon (cs : List Char) : Except Fault (List Char) :=
  match skipBlanks cs with
  | [] => .error .truncated
  | ':' :: rest => .ok rest
  | _ :: _ => .error .malformed

def readString [Encoding] (cs : List Char) : Except Fault (Scanned String) :=
  match skipBlanks cs with
  | '"' :: rest => scanText rest
  | other => .error (mismatch other)

/-- What an object with a reserved first name holds as text. -/
inductive Wrapped where
  | number
  | value
deriving DecidableEq, Repr

def Wrapped.ofName? (name : String) : Option Wrapped :=
  if name = "$serde_json::private::Number" then some .number
  else if name = "$serde_json::private::RawValue" then some .value
  else none

/-- The text behind the first name of an object, if that is reserved. -/
def wrapped? [Encoding] (cs : List Char) : Option (Wrapped × List Char) :=
  match nextName true cs with
  | .ok (some name, rest) => (Wrapped.ofName? name).map (·, rest)
  | _ => none

/-- The wrapped text behind its name. -/
def readWrapped [Encoding] (cs : List Char) : Except Fault (Scanned String) := do
  readString (← scanColon cs)

/-- Behind the wrapped text the object must end. -/
def closeWrapped {α : Type} (v : α) (cs : List Char) : Except Fault (Scanned α) :=
  match skipBlanks cs with
  | [] => .error .truncated
  | '}' :: rest => .ok (v, rest)
  | _ :: _ => .error .malformed

/-- The number that a text is from end to end. -/
def Number.ofText? (text : String) : Option Number :=
  match scanNumber .truncated text.toList with
  | .ok (n, []) => some n
  | _ => none

/-- Whatever is wrong with a wrapped number counts as one fault. -/
def readWrappedNumber [Encoding] (cs : List Char) : Except Fault (Scanned Number) := do
  let (text, rest) ← readWrapped cs
  match Number.ofText? text with
  | some n => closeWrapped n rest
  | none => throw .mismatched

mutual

def readSteps [Encoding] : Nat → Nat → List Char → Except Fault (Scanned Json)
  | 0, _, _ => .error .truncated
  | fuel + 1, depth, cs =>
    match skipBlanks cs with
    | [] => .error .truncated
    | 'n' :: rest => (scanLiteral "ull".toList rest).map (.null, ·)
    | 't' :: rest => (scanLiteral "rue".toList rest).map (.bool true, ·)
    | 'f' :: rest => (scanLiteral "alse".toList rest).map (.bool false, ·)
    | '"' :: rest => (scanText rest).map fun (s, rest) => (.string s, rest)
    | '[' :: rest => if depth = 0 then .error .malformed else readItems fuel (depth - 1) [] rest
    | '{' :: rest =>
      if depth = 0 then .error .malformed
      else
        match wrapped? rest with
        | none => readMembers fuel (depth - 1) true [] rest
        | some (.number, rest) => (readWrappedNumber rest).map fun (n, rest) => (.number n, rest)
        | some (.value, rest) => readWrappedValue fuel rest
    | c :: rest =>
      if c = '-' ∨ (digit? c).isSome then
        (scanNumber .truncated (c :: rest)).map fun (n, rest) => (.number n, rest)
      else .error .malformed

def readItems [Encoding] : Nat → Nat → List Json → List Char → Except Fault (Scanned Json)
  | 0, _, _, _ => .error .truncated
  | fuel + 1, depth, done, cs =>
    match nextItem done.isEmpty cs with
    | .error fault => .error fault
    | .ok (false, rest) => .ok (.array done.reverse, rest)
    | .ok (true, rest) =>
      match readSteps fuel depth rest with
      | .error fault => .error fault
      | .ok (v, rest) => readItems fuel depth (v :: done) rest

def readMembers [Encoding] : Nat → Nat → Bool → Members → List Char → Except Fault (Scanned Json)
  | 0, _, _, _, _ => .error .truncated
  | fuel + 1, depth, first, done, cs =>
    match nextName first cs with
    | .error fault => .error fault
    | .ok (none, rest) => .ok (.object done, rest)
    | .ok (some name, rest) =>
      match scanColon rest with
      | .error fault => .error fault
      | .ok rest =>
        match readSteps fuel depth rest with
        | .error fault => .error fault
        | .ok (v, rest) => readMembers fuel depth false (done.insert name v) rest

/-- A wrapped value is read by its characters and may hold as many containers as any text, and
whatever is wrong with it counts as one fault. -/
def readWrappedValue [Encoding] : Nat → List Char → Except Fault (Scanned Json)
  | 0, _ => .error .truncated
  | fuel + 1, cs => do
    let (text, rest) ← readWrapped cs
    match @readSteps Encoding.characters fuel maxDepth text.toList with
    | .ok (v, after) => if skipBlanks after = [] then closeWrapped v rest else throw .mismatched
    | .error _ => throw .mismatched

end

/-- Reads a value in front of other text; `depth` more containers may be opened. -/
def readValue [Encoding] (depth : Nat) (cs : List Char) : Except Fault (Scanned Json) :=
  readSteps (2 * cs.length + 2) depth cs

def readBool [Encoding] (cs : List Char) : Except Fault (Scanned Bool) :=
  match skipBlanks cs with
  | 't' :: rest => (scanLiteral "rue".toList rest).map (true, ·)
  | 'f' :: rest => (scanLiteral "alse".toList rest).map (false, ·)
  | other => .error (mismatch other)

/-- A missing value may be written as null. -/
def readOptional {α : Type} (read : List Char → Except Fault (Scanned α)) (cs : List Char) :
    Except Fault (Scanned (Option α)) :=
  match skipBlanks cs with
  | 'n' :: rest => (scanLiteral "ull".toList rest).map (none, ·)
  | other => (read other).map fun (v, rest) => (some v, rest)

/-- An integer between two bounds. A fraction, an exponent and minus zero make another kind of
number; one beyond every double is no number at all. -/
def readInteger [Encoding] (least most : Int) (cs : List Char) : Except Fault (Scanned Int) :=
  match skipBlanks cs with
  | [] => .error .truncated
  | c :: rest =>
    if c = '-' ∨ (digit? c).isSome then do
      let (n, rest) ← scanNumber .truncated (c :: rest)
      if n.exceedsDouble then throw .malformed
      match n.int? with
      | some i =>
        if (n.negative ∧ n.whole = 0) ∨ i < least ∨ most < i then throw .mismatched
        return (i, rest)
      | none => throw .mismatched
    else .error (mismatch (c :: rest))

/-- Reads an object, in which no name is reserved; `depth` counts its own braces. -/
def readObject [Encoding] (depth : Nat) (cs : List Char) : Except Fault (Scanned Members) :=
  match skipBlanks cs with
  | '{' :: rest => do
    if depth = 0 then throw .malformed
    match ← readMembers (2 * cs.length + 2) (depth - 1) true [] rest with
    | (.object ms, rest) => return (ms, rest)
    | (_, _) => throw .mismatched
  | other => .error (mismatch other)

/-- A whole text holds one value and blanks around it. -/
def readWhole {α : Type} (read : List Char → Except Fault (Scanned α)) (cs : List Char) :
    Except Fault α := do
  let (v, rest) ← read cs
  if (skipBlanks rest).isEmpty then return v else throw .malformed

def whole {α : Type} (read : List Char → Except Fault (Scanned α)) (text : String) :
    Except Fault α :=
  readWhole read text.toList

def parse (text : String) : Except Fault Json := whole (readValue maxDepth) text

def Members.parse (text : String) : Except Fault Members := whole (readObject maxDepth) text

def readNumber [Encoding] (cs : List Char) : Except Fault (Scanned Number) :=
  match skipBlanks cs with
  | '{' :: rest => do
    match ← nextName true rest with
    | (some name, rest) =>
      if Wrapped.ofName? name = some .number then readWrappedNumber rest else throw .mismatched
    | (none, _) => throw .mismatched
  | c :: rest =>
    if c = '-' ∨ (digit? c).isSome then scanNumber .truncated (c :: rest)
    else .error (mismatch (c :: rest))
  | [] => .error .truncated

def Number.parse (text : String) : Except Fault Number := Json.whole readNumber text

end PlaybackRelay.Json

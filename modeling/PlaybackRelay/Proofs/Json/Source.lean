import PlaybackRelay.Json.Read
import PlaybackRelay.Proofs.Json.Tokens

/-!
JSON as it is written. A value may be spelled in many ways: a character of a string as itself or
escaped, the exponent of a number with either letter, and blanks may stand in front of any token.
What a spelling denotes is told without reading it from left to right. Main definitions:
`Source.Spells` and `Source.value?`.
-/
namespace PlaybackRelay.Json

open Text.Utf16 (isHighSurrogate isLowSurrogate ofSurrogates)

/-- A hexadecimal digit in either case. -/
structure HexDigit where
  char : Char
  value : Nat
  isValue : hexValue? char = some value

/-- The four digits of an escaped code unit. -/
structure HexCode where
  first : HexDigit
  second : HexDigit
  third : HexDigit
  fourth : HexDigit

namespace HexCode

def digits (hex : HexCode) : List HexDigit := [hex.first, hex.second, hex.third, hex.fourth]

def unit (hex : HexCode) : Nat := hex.digits.foldl (fun n d => 16 * n + d.value) 0

end HexCode

/-- A character of a string: itself, a letter behind a backslash, or an escaped code unit. -/
inductive StringPart where
  | plain (c : Char) (h : c ≠ '"' ∧ c ≠ '\\' ∧ 0x20 ≤ c.toNat)
  | short (letter c : Char) (h : simpleEscape? letter = some c)
  | code (hex : HexCode)

def StringPart.text : StringPart → List Char
  | .plain c _ => [c]
  | .short letter _ _ => ['\\', letter]
  | .code hex => '\\' :: 'u' :: hex.digits.map HexDigit.char

/-- What stands between the quotes of a string. -/
abbrev StringToken := List StringPart

namespace StringToken

def body (parts : StringToken) : List Char := parts.flatMap StringPart.text

def text (parts : StringToken) : List Char := '"' :: (body parts ++ ['"'])

/-- The characters of a string. There are none if half of a surrogate pair stands alone; `high` is
a first half that was just read. -/
def chars? : Option Nat → StringToken → Option (List Char)
  | none, [] => some []
  | none, .plain c _ :: parts => (chars? none parts).map (c :: ·)
  | none, .short _ c _ :: parts => (chars? none parts).map (c :: ·)
  | none, .code hex :: parts =>
    if isHighSurrogate hex.unit then chars? (some hex.unit) parts
    else if isLowSurrogate hex.unit then none
    else (chars? none parts).map (Char.ofNat hex.unit :: ·)
  | some high, .code hex :: parts =>
    if isLowSurrogate hex.unit then (chars? none parts).map (ofSurrogates high hex.unit :: ·)
    else none
  | some _, _ => none

def value? (parts : StringToken) : Option String := (chars? none parts).map String.ofList

/-- A string less the characters that have to be escaped. -/
def unescaped (s : String) : StringToken :=
  s.toList.filterMap fun c =>
    if h : c ≠ '"' ∧ c ≠ '\\' ∧ 0x20 ≤ c.toNat then some (.plain c h) else none

end StringToken

/-- An exponent with its letter; the sign of one that is not negative need not be written. -/
def spellExponent (letter : Char) (plus : Bool) : Option Exponent → List Char
  | none => []
  | some e =>
    letter :: ((if e.negative then ['-'] else if plus then ['+'] else []) ++ e.digits.text)

structure NumberToken where
  number : Number
  letter : Char
  plus : Bool
  isLetter : letter = 'e' ∨ letter = 'E'

def NumberToken.text (t : NumberToken) : List Char :=
  (if t.number.negative then ['-'] else []) ++ (Text.decimal t.number.whole ++
    (fractionText t.number.fraction ++ spellExponent t.letter t.plus t.number.exponent))

/-- A value as it is written, less its blanks. -/
inductive Source where
  | null
  | bool (b : Bool)
  | number (token : NumberToken)
  | string (token : StringToken)
  | array (items : List Source)
  | object (members : List (StringToken × Source))

namespace Source

/-- Induction with a hypothesis for each item of an array and each member of an object. -/
@[elab_as_elim]
theorem inductionOn {motive : Source → Prop} (x : Source) (null : motive .null)
    (bool : ∀ b, motive (.bool b)) (number : ∀ t, motive (.number t))
    (string : ∀ t, motive (.string t))
    (array : ∀ items : List Source, (∀ item ∈ items, motive item) → motive (.array items))
    (object : ∀ ms : List (StringToken × Source), (∀ m ∈ ms, motive m.2) → motive (.object ms)) :
    motive x :=
  @Source.rec motive (fun items => ∀ item ∈ items, motive item) (fun ms => ∀ m ∈ ms, motive m.2)
    (fun m => motive m.2) null bool number string array object (by simp)
    (fun _ _ hfirst hrest => List.forall_mem_cons.2 ⟨hfirst, hrest⟩) (by simp)
    (fun _ _ hfirst hrest => List.forall_mem_cons.2 ⟨hfirst, hrest⟩) (fun _ _ hvalue => hvalue) x

/-- The comma in front of every item but the first. -/
def comma (first : Bool) : List (List Char) := if first then [] else [[',']]

mutual

def tokens : Source → List (List Char)
  | .null => ["null".toList]
  | .bool true => ["true".toList]
  | .bool false => ["false".toList]
  | .number token => [token.text]
  | .string token => [token.text]
  | .array items => ['['] :: (itemTokens true items ++ [[']']])
  | .object members => ['{'] :: (memberTokens true members ++ [['}']])

def itemTokens (first : Bool) : List Source → List (List Char)
  | [] => []
  | x :: items => comma first ++ (x.tokens ++ itemTokens false items)

def memberTokens (first : Bool) : List (StringToken × Source) → List (List Char)
  | [] => []
  | (name, x) :: ms => comma first ++ (name.text :: [':'] :: (x.tokens ++ memberTokens false ms))

end

/-- The string that is written. -/
def string? : Source → Option String
  | .string token => token.value?
  | _ => none

/-- The kind of wrapped value that an object holds because of its first name, and its text, which
must not be followed by another member. -/
def wrapped? : List (StringToken × Source) → Option (Wrapped × Option String)
  | [] => none
  | (name, x) :: ms =>
    (name.value?.bind Wrapped.ofName?).map (·, if ms.isEmpty then x.string? else none)

mutual

/-- The value that is written, if `depth` containers may be open at once. -/
def value? (depth : Nat) : Source → Option Json
  | .null => some .null
  | .bool b => some (.bool b)
  | .number token => some (.number token.number)
  | .string token => token.value?.map .string
  | .array items => if depth = 0 then none else (itemValues? (depth - 1) items).map .array
  | .object ms =>
    if depth = 0 then none
    else
      match wrapped? ms with
      | none => (memberValues? (depth - 1) [] ms).map .object
      | some (.number, text) => (text.bind Number.ofText?).map .number
      | some (.value, text) => text.bind fun text => (parse text).toOption

def itemValues? (depth : Nat) : List Source → Option (List Json)
  | [] => some []
  | x :: items => (x.value? depth).bind fun v => (itemValues? depth items).map (v :: ·)

/-- A later member takes the place of an earlier one of the same name. -/
def memberValues? (depth : Nat) (done : Members) : List (StringToken × Source) → Option Members
  | [] => some done
  | (name, x) :: ms =>
    name.value?.bind fun name =>
      (x.value? depth).bind fun v => memberValues? depth (done.insert name v) ms

end

end Source

/-- Tokens at the front of a text, any blanks in front of each, with the text behind them. -/
inductive Spaced : List (List Char) → List Char → List Char → Prop
  | nil (rest : List Char) : Spaced [] rest rest
  | blank {token : List Char} {tokens : List (List Char)} {c : Char} {text rest : List Char} :
    isBlank c = true → Spaced (token :: tokens) text rest →
      Spaced (token :: tokens) (c :: text) rest
  | token {tokens : List (List Char)} {text rest : List Char} (token : List Char) :
    Spaced tokens text rest → Spaced (token :: tokens) (token ++ text) rest

/-- The text is the value and blanks. -/
def Source.Spells (x : Source) (text : String) : Prop :=
  ∃ rest, Spaced x.tokens text.toList rest ∧ ∀ c ∈ rest, isBlank c = true

namespace Spaced

variable {tokens later : List (List Char)} {text mid rest : List Char}

theorem append (h : Spaced tokens text mid) (hlater : Spaced later mid rest) :
    Spaced (tokens ++ later) text rest := by
  induction h with
  | nil => exact hlater
  | blank hc _ ih => exact .blank hc (ih hlater)
  | token token _ ih =>
    rw [List.cons_append]
    exact .token token (ih hlater)

theorem exists_of_cons {token : List Char} (h : Spaced (token :: tokens) text rest) :
    ∃ blanks behind, (∀ c ∈ blanks, isBlank c = true) ∧ text = blanks ++ (token ++ behind) ∧
      Spaced tokens behind rest := by
  generalize hall : token :: tokens = all at h
  induction h with
  | nil => contradiction
  | blank hc _ ih =>
    obtain ⟨blanks, behind, hblanks, rfl, hbehind⟩ := ih hall
    exact ⟨_ :: blanks, behind, List.forall_mem_cons.2 ⟨hc, hblanks⟩, rfl, hbehind⟩
  | token token hrest =>
    obtain ⟨rfl, rfl⟩ := List.cons.inj hall
    exact ⟨[], _, by simp, rfl, hrest⟩

theorem blanks {blanks token : List Char} (hblanks : ∀ c ∈ blanks, isBlank c = true)
    (h : Spaced (token :: tokens) text rest) : Spaced (token :: tokens) (blanks ++ text) rest := by
  induction blanks with
  | nil => exact h
  | cons c blanks ih =>
    obtain ⟨hc, hblanks⟩ := List.forall_mem_cons.1 hblanks
    exact .blank hc (ih hblanks)

theorem exists_of_append (h : Spaced (tokens ++ later) text rest) :
    ∃ mid, Spaced tokens text mid ∧ Spaced later mid rest := by
  induction tokens generalizing text with
  | nil => exact ⟨text, .nil text, h⟩
  | cons token tokens ih =>
    obtain ⟨blanks, behind, hblanks, rfl, hbehind⟩ := exists_of_cons h
    obtain ⟨mid, htokens, hlater⟩ := ih hbehind
    exact ⟨mid, .blanks hblanks (.token token htokens), hlater⟩

/-- What a reader finds behind the blanks. -/
theorem exists_skipBlanks {c : Char} {cs : List Char} (hc : isBlank c = false)
    (h : Spaced ((c :: cs) :: tokens) text rest) :
    ∃ behind, skipBlanks text = c :: (cs ++ behind) ∧ Spaced tokens behind rest := by
  obtain ⟨blanks, behind, hblanks, rfl, hbehind⟩ := exists_of_cons h
  refine ⟨behind, ?_, hbehind⟩
  rw [skipBlanks, List.dropWhile_append_of_pos hblanks, List.cons_append]
  exact skipBlanks_cons hc _

theorem skipBlanks {c : Char} {cs : List Char} (hc : isBlank c = false)
    (h : Spaced ((c :: cs) :: tokens) text rest) :
    Spaced ((c :: cs) :: tokens) (skipBlanks text) rest := by
  obtain ⟨behind, hskip, hbehind⟩ := h.exists_skipBlanks hc
  rw [hskip]
  exact .token (c :: cs) hbehind

/-- No blanks need stand there. -/
theorem flatten (tokens : List (List Char)) (rest : List Char) :
    Spaced tokens (tokens.flatten ++ rest) rest := by
  induction tokens with
  | nil => exact .nil rest
  | cons token tokens ih =>
    rw [List.flatten_cons, List.append_assoc]
    exact .token token ih

theorem length_le (h : Spaced tokens text rest) :
    tokens.flatten.length + rest.length ≤ text.length := by
  induction h with
  | nil => simp
  | blank _ _ ih =>
    rw [List.length_cons]
    omega
  | token token _ ih =>
    simp only [List.flatten_cons, List.length_append]
    omega

theorem length_lt (h : Spaced tokens text rest) (hpos : 0 < tokens.flatten.length) :
    rest.length < text.length := by
  have hlength := h.length_le
  omega

end Spaced

theorem Source.spells_flatten (x : Source) : x.Spells (String.ofList x.tokens.flatten) := by
  refine ⟨[], ?_, by simp⟩
  have hspaced := Spaced.flatten x.tokens []
  rwa [List.append_nil, ← String.toList_ofList (l := x.tokens.flatten)] at hspaced

end PlaybackRelay.Json

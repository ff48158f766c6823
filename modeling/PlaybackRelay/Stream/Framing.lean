import PlaybackRelay.Text.Utf8

/-!
Messages in the body of a stream. A message is a line that starts with a brace, or the values of the
data lines up to an empty line. A body may be cut anywhere, also inside a character.
-/
namespace PlaybackRelay

/-- What has been read and not been delivered: the bytes of the current line and the data lines of
the current block, both in reverse. -/
structure Framing where
  line : List UInt8
  data : List (List Char)
deriving DecidableEq, Repr

namespace Framing

def start : Framing := ⟨[], []⟩

/-- Takes the current block as one message, its lines joined by line ends. -/
def takeBlock (data : List (List Char)) : Option String × List (List Char) :=
  if data.isEmpty then (none, data)
  else (some (String.ofList (['\n'].intercalate data.reverse)), [])

def stripReturn (line : List Char) : List Char :=
  if line.getLast? = some '\r' then line.dropLast else line

/-- The value of a data line; any other field is passed over. -/
def dataValue? (line : List Char) : Option (List Char) :=
  let field := line.takeWhile (· ≠ ':')
  if field = "data".toList then
    match line.drop field.length with
    | ':' :: ' ' :: value => some value
    | ':' :: value => some value
    | _ => some []
  else none

/-- Takes in a whole line. -/
def readLine (data : List (List Char)) (bytes : List UInt8) :
    Option String × List (List Char) :=
  match stripReturn (Text.Utf8.decodeLossy bytes) with
  | [] => takeBlock data
  | '{' :: rest => (some (String.ofList ('{' :: rest)), data)
  | line =>
    match dataValue? line with
    | some value => (none, value :: data)
    | none => (none, data)

def lineEnd : UInt8 := '\n'.toUInt8

/-- Takes in the current line as a whole one. -/
def endLine (f : Framing) : Option String × Framing :=
  let (message, data) := readLine f.data f.line.reverse
  (message, ⟨[], data⟩)

def step (f : Framing) (b : UInt8) : Option String × Framing :=
  if b = lineEnd then f.endLine else (none, { f with line := b :: f.line })

/-- Takes in some bytes and delivers the messages that they complete. -/
def feed (f : Framing) : List UInt8 → List String × Framing
  | [] => ([], f)
  | b :: bs =>
    let (message, f) := f.step b
    let (messages, f) := f.feed bs
    (message.toList ++ messages, f)

/-- The body has ended: what is left counts as a last line, and the last block as complete. -/
def finish (f : Framing) : List String × Framing :=
  let (last, f) := if f.line.isEmpty then (none, f) else f.endLine
  let (block, data) := takeBlock f.data
  (last.toList ++ block.toList, { f with data })

end Framing
end PlaybackRelay

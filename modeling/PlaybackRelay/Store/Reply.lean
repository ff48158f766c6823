import PlaybackRelay.Json.Record

/-!
The reply of the store to a bulk request: whether any document was refused, and for each document
the results by the action that was taken. A reply is read by its bytes: members that nobody asks for
need not be texts.
-/
namespace PlaybackRelay.Store

open Json (Encoding Scanned Fault Shape)

/-- What became of a document. Everything in it may be missing. -/
structure Result where
  index : Option String
  status : Option Nat
  error : Option Json

structure Reply where
  errors : Bool
  items : List (List (String × Result))

namespace Result

inductive Field where
  | index
  | status
  | error

def Field.ofName? (name : String) : Option Field :=
  if name = "_index" then some .index
  else if name = "status" then some .status
  else if name = "error" then some .error
  else none

/-- The members read so far; one that was given as null has been read. -/
structure Draft where
  index : Option (Option String)
  status : Option (Option Nat)
  error : Option (Option Json)

namespace Draft

def seen (d : Draft) : Field → Bool
  | .index => d.index.isSome
  | .status => d.status.isSome
  | .error => d.error.isSome

def readStatus [Encoding] (cs : List Char) : Except Fault (Scanned Nat) :=
  (Json.readInteger 0 0xFFFF cs).map fun (i, rest) => (i.toNat, rest)

def read [Encoding] (depth : Nat) (d : Draft) (f : Field) (cs : List Char) :
    Except Fault (Scanned Draft) :=
  match f with
  | .index =>
    (Json.readOptional Json.readString cs).map fun (v, rest) => ({ d with index := some v }, rest)
  | .status =>
    (Json.readOptional readStatus cs).map fun (v, rest) => ({ d with status := some v }, rest)
  | .error =>
    (Json.readOptional (Json.readValue depth) cs).map
      fun (v, rest) => ({ d with error := some v }, rest)

end Draft

def shape [Encoding] : Shape Field Draft Result where
  field? := Field.ofName?
  order := [.index, .status, .error]
  empty := ⟨none, none, none⟩
  seen := Draft.seen
  read := Draft.read
  finish d := some ⟨d.index.join, d.status.join, d.error.join⟩
  mayEnd d := d.error.isSome

end Result

/-- Keeps the last result of each action. -/
def insertResult (action : String) (r : Result) (results : List (String × Result)) :
    List (String × Result) :=
  (action, r) :: results.filter (·.1 ≠ action)

def readResults [Encoding] (depth : Nat) :
    Nat → Bool → List (String × Result) → List Char →
      Except Fault (Scanned (List (String × Result)))
  | 0, _, _, _ => .error .truncated
  | fuel + 1, first, done, cs => do
    match ← Json.nextName first cs with
    | (none, rest) => return (done, rest)
    | (some action, rest) =>
      let (r, rest) ← Result.shape.readRecord depth (← Json.scanColon rest)
      readResults depth fuel false (insertResult action r done) rest

/-- The results for one document. -/
def readItem [Encoding] (depth : Nat) (cs : List Char) :
    Except Fault (Scanned (List (String × Result))) :=
  match Json.skipBlanks cs with
  | '{' :: rest =>
    if depth = 0 then .error .malformed else readResults (depth - 1) (rest.length + 1) true [] rest
  | other => .error (Json.mismatch other)

def readItemsFrom [Encoding] (depth : Nat) :
    Nat → List (List (String × Result)) → List Char →
      Except Fault (Scanned (List (List (String × Result))))
  | 0, _, _ => .error .truncated
  | fuel + 1, done, cs => do
    match ← Json.nextItem done.isEmpty cs with
    | (false, rest) => return (done.reverse, rest)
    | (true, rest) =>
      let (item, rest) ← readItem depth rest
      readItemsFrom depth fuel (item :: done) rest

def readItems [Encoding] (depth : Nat) (cs : List Char) :
    Except Fault (Scanned (List (List (String × Result)))) :=
  match Json.skipBlanks cs with
  | '[' :: rest =>
    if depth = 0 then .error .malformed else readItemsFrom (depth - 1) (rest.length + 1) [] rest
  | other => .error (Json.mismatch other)

namespace Reply

inductive Field where
  | errors
  | items

def Field.ofName? (name : String) : Option Field :=
  if name = "errors" then some .errors else if name = "items" then some .items else none

structure Draft where
  errors : Option Bool
  items : Option (List (List (String × Result)))

namespace Draft

def seen (d : Draft) : Field → Bool
  | .errors => d.errors.isSome
  | .items => d.items.isSome

def read [Encoding] (depth : Nat) (d : Draft) (f : Field) (cs : List Char) :
    Except Fault (Scanned Draft) :=
  match f with
  | .errors => (Json.readBool cs).map fun (v, rest) => ({ d with errors := some v }, rest)
  | .items => (readItems depth cs).map fun (v, rest) => ({ d with items := some v }, rest)

end Draft

/-- A reply without items has none. -/
def shape [Encoding] : Shape Field Draft Reply where
  field? := Field.ofName?
  order := [.errors, .items]
  empty := ⟨none, none⟩
  seen := Draft.seen
  read := Draft.read
  finish d := d.errors.map fun errors => ⟨errors, d.items.getD []⟩
  mayEnd d := d.errors.isSome

/-- Reads the body of a response. -/
def parse (body : List UInt8) : Except Fault Reply :=
  letI := Encoding.bytes
  Json.readWhole (shape.readRecord Json.maxDepth) (body.map Encoding.ofByte)

end Reply
end PlaybackRelay.Store

import PlaybackRelay.Json.Read

/-!
Reading a record: an object whose known members may stand in any order among unknown ones, or an
array that lists the known members in order.
-/
namespace PlaybackRelay.Json

/-- How a record is read. A draft collects the known members, `finish` is `none` while a required
one is missing, and `mayEnd` says where the array form may end. -/
structure Shape (field draft record : Type) where
  field? : String → Option field
  order : List field
  empty : draft
  seen : draft → field → Bool
  read : Nat → draft → field → List Char → Except Fault (Scanned draft)
  finish : draft → Option record
  mayEnd : draft → Bool

namespace Shape

variable {field draft record : Type} (shape : Shape field draft record)

def close (d : draft) (rest : List Char) : Except Fault (Scanned record) :=
  match shape.finish d with
  | some r => .ok (r, rest)
  | none => .error .mismatched

/-- A member that was read before is refused as soon as its name stands there again. -/
def readMembers [Encoding] (depth : Nat) :
    Nat → Bool → draft → List Char → Except Fault (Scanned record)
  | 0, _, _, _ => .error .truncated
  | fuel + 1, first, d, cs => do
    match ← nextName first cs with
    | (none, rest) => shape.close d rest
    | (some name, rest) =>
      match shape.field? name with
      | none =>
        let rest ← skipValue (← scanColon rest)
        readMembers depth fuel false d rest
      | some f =>
        if shape.seen d f then throw .mismatched
        let (d, rest) ← shape.read depth d f (← scanColon rest)
        readMembers depth fuel false d rest

/-- Behind the last member of the array form only its bracket may stand. -/
def closeArray (d : draft) (cs : List Char) : Except Fault (Scanned record) := do
  let (r, _) ← shape.close d cs
  match skipBlanks cs with
  | [] => throw .truncated
  | ']' :: rest => return (r, rest)
  | _ :: _ => throw .malformed

def readArray (depth : Nat) : List field → Bool → draft → List Char → Except Fault (Scanned record)
  | [], _, d, cs => shape.closeArray d cs
  | f :: fs, first, d, cs => do
    match ← nextItem first cs with
    | (false, rest) => if shape.mayEnd d then shape.close d rest else throw .mismatched
    | (true, rest) =>
      let (d, rest) ← shape.read depth d f rest
      readArray depth fs false d rest

def readRecord [Encoding] (depth : Nat) (cs : List Char) : Except Fault (Scanned record) :=
  match skipBlanks cs with
  | '{' :: rest =>
    if depth = 0 then .error .malformed
    else shape.readMembers (depth - 1) (rest.length + 1) true shape.empty rest
  | '[' :: rest =>
    if depth = 0 then .error .malformed
    else shape.readArray (depth - 1) shape.order true shape.empty rest
  | other => .error (mismatch other)

end Shape
end PlaybackRelay.Json

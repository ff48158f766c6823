import PlaybackRelay.Duration

/-!
Values of settings as they stand in the environment of a process.
-/
namespace PlaybackRelay.Settings

abbrev Environment := List (String × String)

/-- A variable holds a text that is no value of its kind. -/
structure Unreadable where
  variableName : String
deriving DecidableEq, Repr

def Unreadable.message (u : Unreadable) : String :=
  "Failed to parse environment variable " ++ u.variableName

/-- A number in decimal digits, below a limit. A plus sign may stand in front. -/
def decimal? (limit : Nat) (text : String) : Option Nat :=
  let digits := match text.toList with
    | '+' :: rest => rest
    | cs => cs
  if digits.isEmpty ∨ !digits.all Char.isDigit then none
  else
    let n := digits.foldl (fun n c => 10 * n + (c.toNat - '0'.toNat)) 0
    if n < limit then some n else none

def uint16? (text : String) : Option UInt16 := (decimal? UInt16.size text).map Nat.toUInt16

def uint32? (text : String) : Option UInt32 := (decimal? UInt32.size text).map Nat.toUInt32

def uint64? (text : String) : Option UInt64 := (decimal? UInt64.size text).map Nat.toUInt64

/-- Durations are given in milliseconds. -/
def duration? (text : String) : Option Duration := (uint64? text).map Duration.ofMillis

def bool? (text : String) : Option Bool :=
  if text = "true" then some true else if text = "false" then some false else none

def nonempty? (text : String) : Option String := if text.isEmpty then none else some text

/-- The value of a variable, if it is set. -/
def readOptional {α : Type} (env : Environment) (name : String) (value? : String → Option α) :
    Except Unreadable (Option α) :=
  match env.lookup name with
  | none => .ok none
  | some text =>
    match value? text with
    | some value => .ok (some value)
    | none => .error ⟨name⟩

/-- The value of a variable, or the default where it is not set. -/
def read {α : Type} (env : Environment) (name : String) (value? : String → Option α) (default : α) :
    Except Unreadable α :=
  (readOptional env name value?).map (·.getD default)

end PlaybackRelay.Settings

import PlaybackRelay.Json.Number

/-!
JSON values and their written form. The members of an object are kept sorted by name without
repetition, so that a value has exactly one text.
-/
namespace PlaybackRelay

inductive Json where
  | null
  | bool (b : Bool)
  | number (n : Json.Number)
  | string (s : String)
  | array (items : List Json)
  | object (members : List (String × Json))
deriving Inhabited

namespace Json

abbrev Members := List (String × Json)

namespace Members

def get? (name : String) : Members → Option Json
  | [] => none
  | (k, v) :: rest => if k = name then some v else get? name rest

/-- Names are ordered by code points, which is the order of their UTF-8 bytes; a name that is
present takes the new value. -/
def insert (name : String) (value : Json) : Members → Members
  | [] => [(name, value)]
  | (k, v) :: rest =>
    if k = name then (name, value) :: rest
    else if k < name then (k, v) :: insert name value rest
    else (name, value) :: (k, v) :: rest

def ofList (ms : List (String × Json)) : Members :=
  ms.foldl (fun acc m => acc.insert m.1 m.2) []

end Members

def str? : Json → Option String
  | .string s => some s
  | _ => none

def bool? : Json → Option Bool
  | .bool b => some b
  | _ => none

def members? : Json → Option Members
  | .object ms => some ms
  | _ => none

/-- The member of an object; a value of any other kind has none. -/
def get? (v : Json) (name : String) : Option Json :=
  v.members?.bind (Members.get? name)

namespace Members

/-- The object that a member holds. -/
def object? (name : String) (ms : Members) : Option Members := (ms.get? name).bind Json.members?

/-- The string that a member holds. -/
def string? (name : String) (ms : Members) : Option String := (ms.get? name).bind Json.str?

/-- Changes the object that a member holds; any other member is left alone. -/
def onObject (name : String) (change : Members → Members) (ms : Members) : Members :=
  match ms.object? name with
  | some inner => ms.insert name (.object (change inner))
  | none => ms

/-- Changes the object that a member holds, or an empty one in place of anything else. -/
def inObject (name : String) (change : Members → Members) (ms : Members) : Members :=
  ms.insert name (.object (change ((ms.object? name).getD [])))

end Members

def hexDigit (n : Nat) : Char := (Nat.digitChar n)

/-- Only the quote, the backslash and the control characters below the blank are escaped. -/
def escapeChar (c : Char) : List Char :=
  if c = '"' then ['\\', '"']
  else if c = '\\' then ['\\', '\\']
  else if c = '\x08' then ['\\', 'b']
  else if c = '\x0c' then ['\\', 'f']
  else if c = '\n' then ['\\', 'n']
  else if c = '\r' then ['\\', 'r']
  else if c = '\t' then ['\\', 't']
  else if c.toNat < 0x20 then
    ['\\', 'u', '0', '0', hexDigit (c.toNat / 16), hexDigit (c.toNat % 16)]
  else [c]

def quote (s : String) : List Char :=
  '"' :: s.toList.flatMap escapeChar ++ ['"']

/-- Joins written items by commas. -/
def commaSeparated : List (List Char) → List Char
  | [] => []
  | [item] => item
  | item :: rest => item ++ ',' :: commaSeparated rest

mutual

/-- The written form, without any blank. -/
def text : Json → List Char
  | .null => "null".toList
  | .bool true => "true".toList
  | .bool false => "false".toList
  | .number n => n.text
  | .string s => quote s
  | .array items => '[' :: commaSeparated (itemTexts items) ++ [']']
  | .object members => '{' :: commaSeparated (memberTexts members) ++ ['}']

def itemTexts : List Json → List (List Char)
  | [] => []
  | v :: rest => v.text :: itemTexts rest

def memberTexts : List (String × Json) → List (List Char)
  | [] => []
  | (name, v) :: rest => (quote name ++ ':' :: v.text) :: memberTexts rest

end

def Members.text (ms : Members) : List Char := (Json.object ms).text

end Json
end PlaybackRelay

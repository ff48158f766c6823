/-!
Targets of requests: a path with a query, an absolute address, an authority alone, or a star. Main
function: `Target.path?`.
-/
namespace PlaybackRelay.Health.Target

/-- No target is longer, in bytes. -/
def maxLength : Nat := 65534

def maxScheme : Nat := 64

/-- The characters that a path may hold. Some of them should have been escaped. -/
def isPathChar (c : Char) : Bool := !(c ≤ ' ' || ['<', '>', '`'].contains c)

def isQueryChar (c : Char) : Bool := !(c ≤ ' ' || ['"', '<', '>'].contains c)

def isSchemeChar (c : Char) : Bool := c.isAlphanum || ['+', '-', '.'].contains c

def isAuthorityChar (c : Char) : Bool := c.isAlphanum || "!$&'()*+,-.:;=@[]_~".toList.contains c

/-- The path in front of a query and of a fragment, which does not count. An empty path stands for
the root. -/
def pathOf? (cs : List Char) : Option (List Char) :=
  let path := cs.takeWhile fun c => c ≠ '?' ∧ c ≠ '#'
  let query := match cs.drop path.length with
    | '?' :: rest => rest.takeWhile (· ≠ '#')
    | _ => []
  if path.all isPathChar ∧ query.all isQueryChar then some (if path.isEmpty then ['/'] else path)
  else none

/-- What has been seen of an authority. A sign that ends the credentials forgets what colons and
escapes stood in them, and so does the bracket that ends an address. -/
structure Authority where
  colons : Nat
  opened : Bool
  closed : Bool
  escaped : Bool
  atSign : Bool

namespace Authority

def start : Authority := ⟨0, false, false, false, false⟩

def step? (a : Authority) (c : Char) : Option Authority :=
  let next := { a with atSign := c = '@' }
  match c with
  | ':' => if 8 ≤ a.colons then none else some { next with colons := a.colons + 1 }
  | '[' => if a.escaped ∨ a.opened then none else some { next with opened := true }
  | ']' =>
    if !a.opened ∨ a.closed then none
    else some { next with closed := true, colons := 0, escaped := false }
  | '@' => some { next with colons := 0, escaped := false }
  | '%' => some { next with escaped := true }
  | c => if isAuthorityChar c then some next else none

/-- One colon may stand in front of a port, and nothing may be escaped outside the credentials. -/
def isComplete (a : Authority) : Bool :=
  a.opened = a.closed && a.colons ≤ 1 && !a.atSign && !a.escaped

end Authority

/-- The text behind an authority. -/
def afterAuthority? (cs : List Char) : Option (List Char) := do
  let authority := cs.takeWhile fun c => c ≠ '/' ∧ c ≠ '?' ∧ c ≠ '#'
  let a ← authority.foldlM Authority.step? .start
  if a.isComplete then some (cs.drop authority.length) else none

/-- The length of a scheme that is followed by a colon and two slashes. -/
def schemeLength? (cs : List Char) : Option Nat :=
  let scheme := cs.takeWhile isSchemeChar
  match cs.drop scheme.length with
  | ':' :: '/' :: '/' :: _ => some scheme.length
  | _ => none

/-- The path of a target, unless it is malformed. An authority alone has an empty one. -/
def path? (target : String) : Option String := do
  if maxLength < target.utf8ByteSize then none
  let cs := target.toList
  match cs with
  | ['*'] => return "*"
  | '/' :: _ => return String.ofList (← pathOf? cs)
  | _ =>
    match schemeLength? cs with
    | some length =>
      if maxScheme < length then none
      let behind := cs.drop (length + 3)
      let rest ← afterAuthority? behind
      if rest.length = behind.length then none
      return String.ofList (← pathOf? rest)
    | none => if cs ≠ [] ∧ (← afterAuthority? cs) = [] then return "" else none

end PlaybackRelay.Health.Target

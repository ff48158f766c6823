import PlaybackRelay.Agent.Basic

/-!
Versions in User-Agent texts: behind the name of a product, and behind that of a system.
-/
namespace PlaybackRelay.Agent

/-- The version behind the name of a product, with or without a slash, up to the next separator. -/
def productVersion (cs : List Char) : String :=
  let cs := match cs with | '/' :: rest => rest | _ => cs
  match cs.takeWhile fun c => !" ;)(,".toList.contains c with
  | [] => unknown
  | version => String.ofList version

/-- Drops zero components at the end. The text is in reverse. -/
def dropZeros : List Char → List Char
  | '0' :: '.' :: rest => dropZeros rest
  | cs => cs

def withoutZeros (version : String) : String :=
  String.ofList (dropZeros version.toList.reverse).reverse

/-- Numbers between separators, behind a digit: a separator counts only in front of a digit. -/
def takeNumbers (isSeparator : Char → Bool) : List Char → List Char × List Char
  | [] => ([], [])
  | c :: cs =>
    if c.isDigit || (isSeparator c && cs.head?.any Char.isDigit) then
      let (numbers, rest) := takeNumbers isSeparator cs
      (c :: numbers, rest)
    else ([], c :: cs)

/-- At least one number, with the text behind it. -/
def numbers? (isSeparator : Char → Bool) (cs : List Char) : Option (List Char × List Char) :=
  if cs.head?.any Char.isDigit then some (takeNumbers isSeparator cs) else none

def dotted (cs : List Char) : String := String.ofList (cs.map fun c => if c = '_' then '.' else c)

end PlaybackRelay.Agent

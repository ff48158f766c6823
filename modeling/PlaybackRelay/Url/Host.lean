import PlaybackRelay.Text.Utf8
import PlaybackRelay.Url.Address
import PlaybackRelay.Url.Domain.Ascii

/-!
Hosts of URLs. A host of a known scheme is a domain or an address; that of any other scheme is kept
as it is.
-/
namespace PlaybackRelay.Url

/-- Why a text is no absolute URL. -/
inductive ParseError where
  | relative
  | emptyHost
  | invalidPort
  | invalidDotted
  | invalidPieces
  | invalidCharacter
  | invalidDomain
deriving DecidableEq, Repr

def ParseError.message : ParseError → String
  | .relative => "relative URL without a base"
  | .emptyHost => "empty host"
  | .invalidPort => "invalid port number"
  | .invalidDotted => "invalid IPv4 address"
  | .invalidPieces => "invalid IPv6 address"
  | .invalidCharacter => "invalid domain character"
  | .invalidDomain => "invalid international domain name"

def percentByte (b : UInt8) : List Char :=
  ['%', (Nat.digitChar (b.toNat / 16)).toUpper, (Nat.digitChar (b.toNat % 16)).toUpper]

/-- Escapes the characters of a set and all beyond ASCII, byte by byte. -/
def percentEncode (escaped : Char → Bool) (cs : List Char) : List Char :=
  cs.flatMap fun c =>
    if escaped c ∨ 0x80 ≤ c.toNat then (String.utf8EncodeChar c).flatMap percentByte else [c]

/-- A percent sign that is not followed by two hexadecimal digits stands for itself. -/
def percentDecode : List Char → List UInt8
  | '%' :: a :: b :: cs =>
    match Address.digitValue? a, Address.digitValue? b with
    | some x, some y => UInt8.ofNat (16 * x + y) :: percentDecode cs
    | _, _ => '%'.toUInt8 :: percentDecode (a :: b :: cs)
  | c :: cs => String.utf8EncodeChar c ++ percentDecode cs
  | [] => []

def isControl (c : Char) : Bool := c < ' ' || c = '\x7f'

/-- The address between square brackets. -/
def bracketed (cs : List Char) : Except ParseError (List Char) :=
  if cs.getLast? = some ']' then
    match Address.pieces? cs.dropLast with
    | some pieces => .ok ('[' :: Address.piecesText pieces ++ [']'])
    | none => .error .invalidPieces
  else .error .invalidPieces

namespace Host

/-- The host of a known scheme in its written form. -/
def parse : List Char → Except ParseError (List Char)
  | '[' :: cs => bracketed cs
  | cs => do
    let some decoded := Text.Utf8.decode? (percentDecode cs) | throw .invalidDomain
    let some domain := Domain.toAscii? decoded | throw .invalidDomain
    if domain.isEmpty then throw .emptyHost
    if Address.endsInNumber domain then
      match Address.dotted? domain with
      | some address => return Address.dottedText address
      | none => throw .invalidDotted
    return domain

def isForbidden (c : Char) : Bool :=
  c = '\x00' || c = '\t' || c = '\n' || c = '\r' || " #/:<>?@[\\]^|".toList.contains c

/-- The host of an unknown scheme. -/
def parseOther : List Char → Except ParseError (List Char)
  | '[' :: cs => bracketed cs
  | cs =>
    if cs.any isForbidden then .error .invalidCharacter else .ok (percentEncode isControl cs)

end Host
end PlaybackRelay.Url

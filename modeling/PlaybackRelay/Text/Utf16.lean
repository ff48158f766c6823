import PlaybackRelay.Text.Utf8

/-!
UTF-16, and texts whose first bytes may tell that they are written in it. Main function:
`decodeMarked`.
-/
namespace PlaybackRelay.Text

namespace Utf16

def isHighSurrogate (n : Nat) : Bool := 0xD800 ≤ n ∧ n ≤ 0xDBFF

def isLowSurrogate (n : Nat) : Bool := 0xDC00 ≤ n ∧ n ≤ 0xDFFF

def ofSurrogates (high low : Nat) : Char :=
  Char.ofNat (0x10000 + (high - 0xD800) * 0x400 + (low - 0xDC00))

/-- Which byte of a unit comes first. -/
inductive Order where
  | high
  | low
deriving DecidableEq, Repr

/-- The units of 16 bits; `none` is a byte that is left over. -/
def units (order : Order) : List UInt8 → List (Option Nat)
  | a :: b :: bs =>
    let unit := match order with
      | .high => 256 * a.toNat + b.toNat
      | .low => 256 * b.toNat + a.toNat
    some unit :: units order bs
  | [_] => [none]
  | [] => []

def ofUnit (n : Nat) : Char :=
  if isHighSurrogate n ∨ isLowSurrogate n then Utf8.replacement else Char.ofNat n

/-- A surrogate without its other half is replaced, together with a byte that is left over. -/
def ofUnits : List (Option Nat) → List Char
  | some high :: some low :: rest =>
    if isHighSurrogate high ∧ isLowSurrogate low then ofSurrogates high low :: ofUnits rest
    else ofUnit high :: ofUnits (some low :: rest)
  | [some high, none] =>
    if isHighSurrogate high then [Utf8.replacement] else [ofUnit high, Utf8.replacement]
  | some unit :: rest => ofUnit unit :: ofUnits rest
  | none :: rest => Utf8.replacement :: ofUnits rest
  | [] => []

def decodeLossy (order : Order) (bs : List UInt8) : List Char := ofUnits (units order bs)

end Utf16

/-- A mark in front names the encoding and is dropped; a text without one is in UTF-8. -/
def decodeMarked : List UInt8 → List Char
  | 0xEF :: 0xBB :: 0xBF :: bs => Utf8.decodeLossy bs
  | 0xFE :: 0xFF :: bs => Utf16.decodeLossy .high bs
  | 0xFF :: 0xFE :: bs => Utf16.decodeLossy .low bs
  | bs => Utf8.decodeLossy bs

end PlaybackRelay.Text

import PlaybackRelay.Text.Decimal

/-!
Numbers as JSON writes them. A number keeps its digits, so no width and no rounding is involved;
the only freedom a text has and a value lacks is the letter and the sign of the exponent.
-/
namespace PlaybackRelay.Json

/-- One or more decimal digits; leading zeros count. -/
structure Digits where
  first : Fin 10
  rest : List (Fin 10)
deriving DecidableEq, Repr

structure Exponent where
  negative : Bool
  digits : Digits
deriving DecidableEq, Repr

structure Number where
  negative : Bool
  whole : Nat
  fraction : Option Digits
  exponent : Option Exponent
deriving DecidableEq, Repr

namespace Digits

def toList (d : Digits) : List (Fin 10) := d.first :: d.rest

def digitChar (d : Fin 10) : Char := Char.ofNat ('0'.toNat + d.val)

def text (d : Digits) : List Char := d.toList.map digitChar

def value (d : Digits) : Nat := d.toList.foldl (fun n x => 10 * n + x.val) 0

end Digits

namespace Number

def ofInt (i : Int) : Number := ⟨decide (i < 0), i.natAbs, none, none⟩

/-- The number without fraction and exponent that a text denotes; minus zero denotes zero. -/
def int? (n : Number) : Option Int :=
  match n.fraction, n.exponent with
  | none, none => some (if n.negative then -(n.whole : Int) else n.whole)
  | _, _ => none

def Exponent.text (e : Exponent) : List Char :=
  'e' :: (if e.negative then '-' else '+') :: e.digits.text

/-- The written form: an exponent is introduced by a small letter and always carries its sign. -/
def text (n : Number) : List Char :=
  (if n.negative then ['-'] else []) ++ Text.decimal n.whole ++
    (match n.fraction with | some d => '.' :: d.text | none => []) ++
    (match n.exponent with | some e => Exponent.text e | none => [])

end Number

end PlaybackRelay.Json

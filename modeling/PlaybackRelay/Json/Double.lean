import PlaybackRelay.Json.Number

/-!
The double that a number becomes where an integer was wanted. Of its digits those count that fit in
64 bits; they make an integer, which is multiplied by a power of ten, and both are rounded first.
Main function: `Number.exceedsDouble`.
-/
namespace PlaybackRelay.Json.Number

/-- The nearest number with at most 53 binary digits, and the even one at a midpoint. -/
def roundDouble (n : Nat) : Nat :=
  let unit := 1 <<< (n.log2 - 52)
  let below := n / unit
  let left := n % unit
  (if 2 * left < unit ∨ (2 * left = unit ∧ below % 2 = 0) then below else below + 1) * unit

/-- Half a unit beyond the largest double, from where on a product rounds to infinity. -/
def doubleOverflow : Nat := (1 <<< 1024) - (1 <<< 970)

/-- Doubles have powers of ten up to this one. -/
def maxPower : Int := 308

/-- The digits that count, as an integer, and the power of ten that belongs to it. -/
structure Scaled where
  digits : Nat
  power : Int
deriving DecidableEq, Repr

/-- Digits at the end are cut off until the others fit. -/
def Scaled.ofWhole (n : Nat) (power : Int) : Scaled :=
  if n < UInt64.size then ⟨n, power⟩ else ofWhole (n / 10) (power + 1)
termination_by n
decreasing_by
  unfold UInt64.size at *
  omega

/-- Takes in the digits of a fraction up to the first that does not fit. -/
def Scaled.addFraction (s : Scaled) : List (Fin 10) → Scaled
  | [] => s
  | d :: ds =>
    let digits := 10 * s.digits + d.val
    if digits < UInt64.size then addFraction ⟨digits, s.power - 1⟩ ds else s

def Exponent.value (e : Exponent) : Int :=
  if e.negative then -(e.digits.value : Int) else e.digits.value

def scaled (n : Number) : Scaled :=
  let s := (Scaled.ofWhole n.whole 0).addFraction ((n.fraction.map Digits.toList).getD [])
  { s with power := s.power + (n.exponent.map Exponent.value).getD 0 }

/-- The double that the number becomes is infinite. -/
def exceedsDouble (n : Number) : Bool :=
  let s := n.scaled
  if s.digits = 0 ∨ s.power < 0 then false
  else if maxPower < s.power then true
  else decide (doubleOverflow ≤ roundDouble s.digits * roundDouble (Nat.pow 10 s.power.toNat))

end PlaybackRelay.Json.Number

import PlaybackRelay.Event.Basic

/-!
Integers that fit 64 bits: those beyond the range of signed words become the nearest bound, in
arrays and objects of any depth.
-/
namespace PlaybackRelay.Json

namespace Number

/-- The bound that takes the place of an integer out of range. -/
def bound? (n : Number) : Option Number :=
  match n.int? with
  | some i =>
    if i < Int64.minValue.toInt then some (.ofInt Int64.minValue.toInt)
    else if Int64.maxValue.toInt < i then some (.ofInt Int64.maxValue.toInt)
    else none
  | none => none

def clamp (n : Number) : Number := n.bound?.getD n

end Number

mutual

def clamp : Json → Json
  | .number n => .number n.clamp
  | .array items => .array (clampItems items)
  | .object members => .object (clampMembers members)
  | other => other

def clampItems : List Json → List Json
  | [] => []
  | v :: rest => v.clamp :: clampItems rest

def clampMembers : List (String × Json) → List (String × Json)
  | [] => []
  | (name, v) :: rest => (name, v.clamp) :: clampMembers rest

end

end PlaybackRelay.Json

/-!
Numbers in decimal digits.
-/
namespace PlaybackRelay.Text

def decimal (n : Nat) : List Char := Nat.toDigits 10 n

def decimalString (n : Nat) : String := String.ofList (decimal n)

end PlaybackRelay.Text

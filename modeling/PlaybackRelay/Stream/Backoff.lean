import PlaybackRelay.Duration

/-!
How long to wait before each attempt to connect again, and how many attempts there are.
-/
namespace PlaybackRelay

structure Backoff where
  initial : Duration
  maximum : Duration
  maxAttempts : UInt32

namespace Backoff

def standard : Backoff := ⟨.ofMillis 5000, .ofMillis 60000, 5⟩

/-- The factor of an attempt, if it fits 32 bits. -/
def factor? (attempt : UInt32) : Option Nat :=
  if attempt < 32 then some (Nat.pow 2 attempt.toNat) else none

/-- Doubles with every attempt up to the maximum, which also stands in for a delay too long to be
written down. -/
def delay (b : Backoff) (attempt : UInt32) : Duration :=
  (((factor? attempt).bind b.initial.mul?).getD b.maximum).min b.maximum

def allows (b : Backoff) (attempt : UInt32) : Bool := attempt < b.maxAttempts

end Backoff
end PlaybackRelay

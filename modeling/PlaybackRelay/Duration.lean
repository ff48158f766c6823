/-!
Lengths of time: whole seconds that fit 64 bits, and nanoseconds below one second.
-/
namespace PlaybackRelay

def nanosPerSecond : Nat := 1000000000

def nanosPerMilli : Nat := 1000000

structure Duration where
  seconds : Nat
  nanos : Nat
  seconds_lt : seconds < UInt64.size
  nanos_lt : nanos < nanosPerSecond
deriving DecidableEq, Repr

namespace Duration

def zero : Duration := ⟨0, 0, by decide, by decide⟩

instance : Inhabited Duration := ⟨zero⟩

def toNanos (d : Duration) : Nat := d.seconds * nanosPerSecond + d.nanos

/-- A duration, if the seconds fit. -/
def mk? (seconds nanos : Nat) : Option Duration :=
  if h : seconds + nanos / nanosPerSecond < UInt64.size then
    some ⟨seconds + nanos / nanosPerSecond, nanos % nanosPerSecond, h,
      Nat.mod_lt _ (by decide)⟩
  else none

def ofMillis (ms : UInt64) : Duration where
  seconds := ms.toNat / 1000
  nanos := ms.toNat % 1000 * nanosPerMilli
  seconds_lt := Nat.lt_of_le_of_lt (Nat.div_le_self _ _) ms.toNat_lt_size
  nanos_lt := by
    have := Nat.mod_lt ms.toNat (show 0 < 1000 by decide)
    unfold nanosPerSecond nanosPerMilli
    omega

def add? (a b : Duration) : Option Duration := mk? (a.seconds + b.seconds) (a.nanos + b.nanos)

def mul? (d : Duration) (factor : Nat) : Option Duration :=
  mk? (d.seconds * factor) (d.nanos * factor)

/-- Divides the seconds first and carries what is left of them; rounds down. -/
def div (d : Duration) (n : Nat) : Duration where
  seconds := d.seconds / n
  nanos := (d.seconds % n * nanosPerSecond + d.nanos) / n
  seconds_lt := Nat.lt_of_le_of_lt (Nat.div_le_self _ _) d.seconds_lt
  nanos_lt := by
    have hd := d.nanos_lt
    rcases Nat.eq_zero_or_pos n with rfl | hn
    · simp [nanosPerSecond]
    · apply Nat.div_lt_of_lt_mul
      have hm : d.seconds % n + 1 ≤ n := Nat.mod_lt _ hn
      calc d.seconds % n * nanosPerSecond + d.nanos
          < d.seconds % n * nanosPerSecond + nanosPerSecond := by omega
        _ = (d.seconds % n + 1) * nanosPerSecond := by rw [Nat.add_mul, Nat.one_mul]
        _ ≤ n * nanosPerSecond := Nat.mul_le_mul_right _ hm

def le (a b : Duration) : Bool :=
  a.seconds < b.seconds || (a.seconds = b.seconds && a.nanos ≤ b.nanos)

def min (a b : Duration) : Duration := if a.le b then a else b

def isZero (d : Duration) : Bool := d.seconds = 0 && d.nanos = 0

/-- Whole milliseconds. They are logged as a number of 64 bits, which wraps around. -/
def millis (d : Duration) : Nat := (d.seconds * 1000 + d.nanos / nanosPerMilli) % UInt64.size

end Duration
end PlaybackRelay

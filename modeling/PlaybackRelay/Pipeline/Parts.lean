import PlaybackRelay.Duration

/-!
What has to be there before events flow, and what it can be built of. Main function: `Part.fits`.
-/
namespace PlaybackRelay

/-- A table for so many sessions, a clock that forgets sessions after so many seconds, room for some
events, permits for writes, and the clock of the reports. -/
inductive Part where
  | sessions (capacity : Nat)
  | idleClock (seconds : Nat)
  | events (room : Nat)
  | permits (count : Nat)
  | ticker (period : Duration)
deriving DecidableEq, Repr

namespace Part

/-- No piece of memory is longer. -/
def maxBytes : Nat := 1 <<< 63 - 1

/-- At most seven of eight cells of a table are in use, and their number is a power of two. -/
def tableCells (capacity : Nat) : Nat :=
  if capacity < 8 then 8 else 1 <<< ((8 * capacity / 7 - 1).log2 + 1)

/-- Each cell holds two addresses and one byte more. The bytes are read in groups, for which the
table is longer by one and aligned. -/
def tableBytes (capacity : Nat) : Nat := tableCells capacity * 17 + 16 + 15

def eventBytes : Nat := 120

/-- A thousand years. -/
def maxIdleSeconds : Nat := 1000 * 365 * 24 * 3600

/-- Permits are counted in three bits less than a word has. -/
def maxPermits : Nat := 1 <<< 61 - 1

/-- Whether a part can be built; else whoever builds it crashes. -/
def fits : Part → Bool
  | sessions capacity => tableBytes capacity ≤ maxBytes
  | idleClock seconds => seconds ≤ maxIdleSeconds
  | events room => room * eventBytes ≤ maxBytes
  | permits count => count ≤ maxPermits
  | ticker period => !period.isZero

/-- Why a part cannot be built. -/
def message : Part → String
  | sessions _ => "the session cache does not fit into memory"
  | idleClock _ => "sessions cannot be kept for more than a thousand years"
  | events _ => "the events do not fit into memory"
  | permits _ => "too many concurrent writes"
  | ticker _ => "the interval of the reports is empty"

end Part
end PlaybackRelay

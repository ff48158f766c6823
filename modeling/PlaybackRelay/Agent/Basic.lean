import PlaybackRelay.Text.Search

/-!
What a User-Agent text says about the program, the device and the system that sent it.
-/
namespace PlaybackRelay

structure Agent where
  name : String
  version : String
  kind : String
  security : String
  engine : String
  deviceName : String
  deviceKind : String
  systemName : String
  systemVersion : String
deriving DecidableEq, Repr

namespace Agent

/-- What stands for anything that a text does not tell. -/
def unknown : String := "??"

def unresolved : Agent :=
  ⟨unknown, unknown, unknown, unknown, unknown, unknown, unknown, unknown, unknown⟩

/-- The agent is a robot or an attack: one of the four kinds says so, in any case. -/
def isSuspect (a : Agent) : Bool :=
  [a.deviceKind, a.engine, a.kind, a.security].any fun kind =>
    Text.startsWithIgnoringAsciiCase "Hacker" kind.toList ||
      Text.startsWithIgnoringAsciiCase "Robot" kind.toList

end Agent
end PlaybackRelay

import PlaybackRelay.Network.Status

/-!
What comes back over one connection that was made to send one request.
-/
namespace PlaybackRelay.Network

/-- A body may be cut short, and one that is held open never ends. -/
inductive BodyEnd where
  | complete
  | cut
  | held
deriving DecidableEq, Repr

inductive Exchange where
  | failed
  | response (status : Nat) (body : List UInt8) (bodyEnd : BodyEnd)
deriving DecidableEq, Repr

end PlaybackRelay.Network

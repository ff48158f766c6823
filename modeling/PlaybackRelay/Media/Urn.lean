import PlaybackRelay.Text.Search

/-!
Identifiers of media: names in segments between colons, on one line.
-/
namespace PlaybackRelay.Media.Urn

/-- The segments that name a broadcaster, with the name to report. -/
def broadcasters : List (String × String) := [
  ("srf", "srf"), ("rts", "rts"), ("rsi", "rsi"), ("rtr", "rtr"), ("rio", "playsuisse"),
  ("swi", "swi")]

def kinds : List String := ["video", "audio"]

def textService : String := "swisstxt"

/-- What follows the scheme. -/
def body? (id : List Char) : Option (List Char) :=
  if id.contains '\n' then none else Text.behind? "urn:".toList id

def between (tag : String) : String := ":" ++ tag ++ ":"

/-- The tag is a segment behind the scheme, and another one follows. -/
def hasSegment (tag : String) (id : List Char) : Bool :=
  (body? id).any fun body => Text.occurs (between tag) (':' :: body)

/-- The tag is a segment behind the scheme and another one, and a further one follows. -/
def hasInnerSegment (tag : String) (id : List Char) : Bool :=
  (body? id).any fun body => Text.occurs (between tag) body

def broadcaster? (id : List Char) : Option String :=
  (broadcasters.find? fun (tag, _) => hasSegment tag id).map Prod.snd

def kind? (id : List Char) : Option String := kinds.find? (hasInnerSegment · id)

def isTextService (id : List Char) : Bool := hasSegment textService id

end PlaybackRelay.Media.Urn

import PlaybackRelay.Text.Utf8

/-!
What the characters of a JSON text stand for. Most texts are read by their characters. The body of a
response is read by its bytes, as nobody has found out yet whether it is a text: that is asked of
each string when it is kept, and of nothing else.
-/
namespace PlaybackRelay.Json

class Encoding where
  /-- How many bytes a character stands for. -/
  size : Char → Nat
  /-- How an escaped character is put down among the others of a string. -/
  encode : Char → List Char
  /-- The text that the characters of a string are, if they are one. -/
  decode? : List Char → Option (List Char)

namespace Encoding

/-- Characters stand for themselves. -/
instance characters : Encoding where
  size := Char.utf8Size
  encode c := [c]
  decode? := some

@[simp] theorem size_characters (c : Char) : size c = c.utf8Size := rfl

def ofByte (b : UInt8) : Char := Char.ofNat b.toNat

def toByte (c : Char) : UInt8 := UInt8.ofNat c.toNat

/-- Each character stands for the byte with its number. -/
@[reducible] def bytes : Encoding where
  size _ := 1
  encode c := (Text.Utf8.encode [c]).map ofByte
  decode? cs := Text.Utf8.decode? (cs.map toByte)

end Encoding
end PlaybackRelay.Json

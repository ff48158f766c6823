import PlaybackRelay.Agent.Browser
import PlaybackRelay.Agent.Platform
import PlaybackRelay.Agent.Robot

/-!
Reading a User-Agent text. Main function: `Agent.ofText`.
-/
namespace PlaybackRelay.Agent

/-- A browser that is known by name counts as one. -/
def ofBrowser (ua : List Char) : Agent :=
  let (name, version) := browser ua
  let kind := if name = unknown then unknown else "Browser"
  let (deviceName, deviceKind) := device ua
  let (systemName, systemVersion) := system ua
  ⟨name, version, kind, unknown, kind, deviceName, deviceKind, systemName, systemVersion⟩

def ofText (text : List Char) : Agent :=
  let ua := Text.trim text
  if ua.isEmpty then unresolved
  else if isAttack ua then attack
  else (robot? ua).getD (ofBrowser ua)

end PlaybackRelay.Agent

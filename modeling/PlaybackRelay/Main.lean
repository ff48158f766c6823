import PlaybackRelay.Relay

/-!
The command line. The settings come from the environment and the stream of events from the standard
input; no other connection can be made. Documents go to the standard output.
-/
namespace PlaybackRelay.Main

def environment : IO Settings.Environment :=
  Settings.variableNames.filterMapM fun name => do
    return (← IO.getEnv name).map (name, ·)

/-- The standard input is the only connection. -/
def network (input : List UInt8) : Relay.Network where
  stream n := if n = 0 then .response 200 input .complete else .failed
  store _ := .failed

def report : IO Relay.Report := do
  match Relay.settings (← environment) with
  | .error errors => return .ofErrors errors
  | .ok settings =>
    let input ← (← IO.getStdin).readBinToEnd
    return Relay.run settings (network input.toList) fun _ => false

end PlaybackRelay.Main

def main : IO UInt32 := do
  let report ← PlaybackRelay.Main.report
  for e in report.printed do
    IO.println (String.ofList e.document)
  IO.eprint report.errorText
  return report.exitCode

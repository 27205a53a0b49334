import RelayMesh.CommandLine
import RelayMesh.Server.Handling

/-!
# The program

The program serves one session on its standard streams: every line that it
reads is a frame of the peer, and every message to the peer is a line that it
prints.
-/

namespace RelayMesh.Program

/-- The variables that settings are read from. -/
def settingNames : List String :=
  ["WS_ADDR", "DEBUG_PORT", "NODE_ID", "ICE_SERVERS", "STREAM_ID", "ICE_TIMEOUT_SECS", "CODEC",
    "SFU_MAX_FORWARDING_STREAMS", "SFU_MIN_BANDWIDTH_MBPS", "SFU_MAX_CPU_PERCENT",
    "SFU_MAX_MEMORY_PERCENT", "SFU_STATUS_INTERVAL_SECS", "SFU_HEALTH_CHECK_INTERVAL_SECS",
    "SFU_INCUMBENT_BONUS"]

/-- Reads the settings from the environment. -/
def readSettings : IO Settings := do
  let values ← settingNames.mapM (fun name => do pure (name, ← IO.getEnv name))
  pure (Settings.ofEnvironment (fun name => (values.lookup name).join))

/-- Prints the messages that a session was sent after the first `seen` ones, and counts all. -/
def printMessages (server : Server) (id : String) (seen : Nat) : IO Nat := do
  let sent := ((server.sessions.get? id).map Session.sent).getD []
  (sent.drop seen).forM (fun message => IO.println message.text)
  (← IO.getStdout).flush
  pure sent.length

/-- Serves a session until the peer or a failure ends it. -/
partial def serve (server : Server) (id : String) (seen : Nat) : IO Unit := do
  let seen ← printMessages server id seen
  let line ← (← IO.getStdin).getLine
  if !line.isEmpty && server.sessions.contains id then
    let now ← IO.monoNanosNow
    serve (server.receive id now (.text line)) id seen

end RelayMesh.Program

open RelayMesh Program in
/-- Reads the settings and serves a session. -/
def main (arguments : List String) : IO UInt32 := do
  match CommandLine.apply (← readSettings) arguments with
  | .error message =>
    IO.eprintln message
    pure 2
  | .ok settings =>
    let engine := MediaEngine.onHost Host.isolated
    let outcome := (Server.new engine settings.link settings.policy).start "session_0" true
    match outcome.failure with
    | some failure =>
      IO.eprintln failure.message
      pure 1
    | none =>
      serve outcome.server "session_0" 0
      pure 0

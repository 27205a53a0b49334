import RelayMesh.Link.Options
import RelayMesh.Policy
import RelayMesh.Text.Blank
import RelayMesh.Text.Numeral

/-!
# Settings of a deployment

`Settings.ofEnvironment` reads the settings from environment variables.  A
variable that is not set, or whose value does not parse, leaves the default;
texts are taken as they are.
-/

namespace RelayMesh

/-- The settings of a server. -/
structure Settings where
  address : String
  debugPort : Nat
  hubId : String
  link : LinkOptions
  policy : Policy Float
deriving Repr

namespace Settings

/-- A variable as a text. -/
def textOr (environment : String → Option String) (name default : String) : String :=
  (environment name).getD default

/-- A variable as a whole number below a bound. -/
def naturalOr (environment : String → Option String) (name : String) (bound default : Nat) : Nat :=
  ((environment name).bind (fun value => Text.readNatural bound value.toList)).getD default

/-- A variable as a number of seconds. -/
def secondsOr (environment : String → Option String) (name : String) (default : Span) : Span :=
  Span.ofSeconds (naturalOr environment name UInt64.size default.seconds)

/-- A variable as a floating number. -/
def realOr (environment : String → Option String) (name : String) (default : Float) : Float :=
  ((environment name).bind (fun value => Text.readReal value.toList)).getD default

/-- The servers of a list of addresses with commas between; blank ones are skipped. -/
def readServers (value : String) : List IceServer :=
  let urls := (Text.splitOn ',' value.toList).map Text.trim
  (urls.filter (fun url => !url.isEmpty)).map (fun url => IceServer.stun (String.ofList url))

/-- The policy that the environment sets. -/
def policyOf (environment : String → Option String) : Policy Float :=
  let base : Policy Float := Policy.standard
  { maxStreams := naturalOr environment "SFU_MAX_FORWARDING_STREAMS" UInt32.size base.maxStreams
    minBandwidth := realOr environment "SFU_MIN_BANDWIDTH_MBPS" base.minBandwidth
    maxCpu := realOr environment "SFU_MAX_CPU_PERCENT" base.maxCpu
    maxMemory := realOr environment "SFU_MAX_MEMORY_PERCENT" base.maxMemory
    statusInterval := secondsOr environment "SFU_STATUS_INTERVAL_SECS" base.statusInterval
    healthInterval := secondsOr environment "SFU_HEALTH_CHECK_INTERVAL_SECS" base.healthInterval
    incumbentBonus := realOr environment "SFU_INCUMBENT_BONUS" base.incumbentBonus }

/-- The settings that the environment gives. -/
def ofEnvironment (environment : String → Option String) : Settings where
  address := textOr environment "WS_ADDR" "0.0.0.0:8080"
  debugPort := naturalOr environment "DEBUG_PORT" UInt16.size 8081
  hubId := textOr environment "NODE_ID" "central"
  link :=
    { iceServers := ((environment "ICE_SERVERS").map readServers).getD LinkOptions.publicServers
      streamId := textOr environment "STREAM_ID" LinkOptions.defaultStreamId
      iceTimeout := secondsOr environment "ICE_TIMEOUT_SECS" LinkOptions.defaultIceTimeout
      codec := textOr environment "CODEC" LinkOptions.defaultCodec }
  policy := policyOf environment

end Settings

end RelayMesh

import RelayMesh.Time.Span

/-!
# Options of a link

What a session's link is set up with.  An option that is empty or zero stands
for its default, which `LinkOptions.withDefaults` fills in.
-/

namespace RelayMesh

/-- A server that helps peers find a path to each other. -/
structure IceServer where
  urls : List String
  username : String := ""
  credential : String := ""
deriving Repr, DecidableEq, Inhabited

/-- What the credential of a server is. -/
inductive CredentialKind where
  | unspecified
  | password
deriving Repr, DecidableEq

/-- The name of what a credential is. -/
def CredentialKind.name : CredentialKind → String
  | unspecified => "Unspecified"
  | password => "password"

/-- The options of a link. -/
structure LinkOptions where
  iceServers : List IceServer := []
  streamId : String := ""
  /-- How long to wait for candidates, in nanoseconds. -/
  iceTimeout : Span := 0
  codec : String := ""
deriving Repr, DecidableEq, Inhabited

namespace IceServer

/-- The server at one address, without credentials. -/
def stun (url : String) : IceServer :=
  { urls := [url] }

/-- What the credential of the server is: an empty one is none. -/
def credentialKind (server : IceServer) : CredentialKind :=
  if server.credential.isEmpty then .unspecified else .password

end IceServer

namespace LinkOptions

/-- The stream identifier of a link that names none. -/
def defaultStreamId : String := "selective-relay"

/-- How long a link waits for candidates by default. -/
def defaultIceTimeout : Span := Span.ofSeconds 10

/-- The codec of a link that names none. -/
def defaultCodec : String := "opus"

/-- The servers of a deployment that names none. -/
def publicServers : List IceServer :=
  [{ urls := ["stun:stun.l.google.com:19302", "stun:stun1.l.google.com:19302"] }]

/-- The time to wait for candidates; zero stands for the default. -/
def timeout (options : LinkOptions) : Span :=
  if options.iceTimeout = 0 then defaultIceTimeout else options.iceTimeout

/-- The options with every empty or zero one replaced by its default. -/
def withDefaults (options : LinkOptions) : LinkOptions :=
  { options with
    streamId := if options.streamId.isEmpty then defaultStreamId else options.streamId
    iceTimeout := options.timeout
    codec := if options.codec.isEmpty then defaultCodec else options.codec }

/-- A one-line summary of the options. -/
def summary (options : LinkOptions) : String :=
  "WebRtcOption\x7bice_servers: " ++ toString options.iceServers.length ++
    ", stream_id: " ++ options.streamId ++
    ", ice_timeout: " ++ options.iceTimeout.text ++
    ", codec: " ++ options.codec ++ "\x7d"

end LinkOptions

end RelayMesh

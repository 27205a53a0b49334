import RelayMesh.Codec.Preference
import RelayMesh.Codec.Reframing
import RelayMesh.Link.Description
import RelayMesh.Link.Engine

/-!
# Links

A link is the media path of one session: its options, its connection once it
is created, the descriptions that it has made and its tracks.

An operation that the link refuses reports why.  The operations that exchange
descriptions can fail after they have changed the link, so they return it
beside their result: a description is set before candidates are gathered for
it, and before the engine looks at what it says.  Closing is final.

When a connection finds candidates is the same for every engine
(`Link.gather`), and no theorem depends on it.
-/

namespace RelayMesh

/-- The media path of a session. -/
structure Link where
  options : LinkOptions
  connection : Option Connection := none
  closed : Bool := false
  /-- The candidates found for the latest local description. -/
  candidates : List String := []
  /-- Whether there is a track for audio. -/
  audio : Bool := false
  /-- Whether there is a track for video. -/
  video : Bool := false
  /-- The latest offer that was made with its candidates. -/
  offer : Option String := none
  /-- The latest answer that was made with its candidates. -/
  answer : Option String := none
deriving Repr, DecidableEq

namespace Link

/-- A link that is set up with some options and has no connection yet. -/
def new (options : LinkOptions) : Link :=
  { options := options.withDefaults }

/-- The codec of the link. -/
def codec (link : Link) : CodecKind :=
  CodecKind.ofName link.options.codec

/-! ## The connection -/

/-- The connection, which has to be live. -/
def live (link : Link) : Except RelayError Connection :=
  match link.connection with
  | some connection => .ok connection
  | none => .error .notInitialized

/-- How far the connection has come. -/
def state (link : Link) : ConnectionState :=
  if link.connection.isNone && link.closed then .closed else .new

/-- How far the exchange of descriptions has come. -/
def signaling (link : Link) : Except RelayError SignalingState :=
  link.live.map Connection.signaling

/-- Creates the connection, unless it is live. -/
def create (engine : MediaEngine) (link : Link) : Except RelayError Link :=
  if link.closed then .error .connectionClosed
  else if link.connection.isSome then .ok link
  else if engine.takesServers link.options.iceServers then
    .ok { link with connection := some {} }
  else .error (.media "a server cannot be used")

/-- Closes the link and drops its tracks and candidates. -/
def close (link : Link) : Link :=
  { link with connection := none, closed := true, candidates := [], audio := false, video := false }

/-- Closes the link and reports how its connection was shut down.  The link is closed either way. -/
def release (engine : MediaEngine) (link : Link) : Except RelayError Unit × Link :=
  (link.connection.elim (.ok ()) (Connection.shutDown engine), link.close)

/-- Whether closing the link now wakes those who wait for its end; it does so once. -/
def closeWakes (link : Link) : Bool :=
  !link.closed

/-! ## Tracks -/

/-- The track for a kind of media in a codec. -/
def track (link : Link) (kind : MediaKind) (codec : CodecKind) : Track :=
  ⟨codec, kind.name, link.options.streamId⟩

/-- Adds a track for audio in the codec of the link. -/
def addAudioTrack (link : Link) : Except RelayError Link :=
  link.live.map (fun connection =>
    { link with
      connection := some (connection.addTrack (link.track .audio link.codec))
      audio := true })

/-- Adds a track for video in a codec. -/
def addVideoTrack (link : Link) (codec : CodecKind) : Except RelayError Link :=
  if codec.isVideo then
    link.live.map (fun connection =>
      { link with
        connection := some (connection.addTrack (link.track .video codec))
        video := true })
  else .error (.codec (codec.name ++ " is not a video codec"))

/-- Whether there is a track for a kind of media. -/
def hasTrack (link : Link) : MediaKind → Bool
  | .audio => link.audio
  | .video => link.video

/-- Sends a packet and returns the number of bytes that the track took. -/
def send (link : Link) (media : MediaKind) (payload : Payload) : Nat :=
  if link.hasTrack media then payload.length else 0

/-- Sends audio of some format in frames of the link's own format. -/
def sendPayload (link : Link) (source : CodecConfig) (payload : Payload) :
    Except RelayError Nat :=
  (transcode source link.codec.config payload).map (fun frames =>
    frames.foldl (fun sent frame => sent + link.send .audio frame) 0)

/-! ## Descriptions -/

/-- What a remote payload says: its kind, given or inferred, and its text, which the engine must
be able to read. -/
def resolve (engine : MediaEngine) (link : Link) (payload : String) :
    Except RelayError (DescriptionKind × String) := do
  let remote ← RemotePayload.read payload
  let kind ← match remote.kind with
    | some name => DescriptionKind.ofName name
    | none => link.signaling.bind DescriptionKind.infer
  if engine.reads remote.sdp then pure (kind, remote.sdp)
  else throw (.invalidDescription "the text is no session description")

/-- What a remote payload says, and the connection that it is for. -/
def resolveLive (engine : MediaEngine) (link : Link) (payload : String) :
    Except RelayError (DescriptionKind × String × Connection) := do
  let (kind, text) ← link.resolve engine payload
  pure (kind, text, ← link.live)

/-- Sets the description of the other side and returns its kind. -/
def setRemote (engine : MediaEngine) (link : Link) (payload : String) :
    Except RelayError DescriptionKind × Link :=
  match link.resolveLive engine payload with
  | .error e => (.error e, link)
  | .ok (kind, text, connection) =>
    let (outcome, connection) := connection.setRemote engine kind text
    (outcome.map (fun _ => kind), { link with connection := some connection })

/-- The candidates of a new local description.  A connection that has gathered before finds no
others and waits for them in vain. -/
def gather (engine : MediaEngine) (link : Link) (connection : Connection) :
    Except RelayError (List String) :=
  if connection.gathered then .error (.gatheringTimeout link.options.iceTimeout)
  else if engine.candidates.isEmpty then .error .noCandidates
  else .ok engine.candidates

/-- Sets a local description and gathers candidates for it. -/
def describe (engine : MediaEngine) (link : Link) (connection : Connection)
    (kind : DescriptionKind) (text : String) : Except RelayError LocalDescription × Link :=
  let link := { link with candidates := [] }
  match connection.setLocal engine kind text with
  | (.error e, described) => (.error e, { link with connection := some described })
  | (.ok _, described) =>
    let link := { link with connection := some { described with gathered := true } }
    match link.gather engine connection with
    | .error e => (.error e, link)
    | .ok candidates => (.ok ⟨text, candidates⟩, { link with candidates })

/-- Makes an offer. -/
def createOffer (engine : MediaEngine) (link : Link) : Except RelayError LocalDescription × Link :=
  match link.connection with
  | none => (.error .notInitialized, link)
  | some connection =>
    match connection.offer engine with
    | (.error e, connection) => (.error e, { link with connection := some connection })
    | (.ok text, connection) =>
      match link.describe engine connection .offer text with
      | (.ok made, link) => (.ok made, { link with offer := some made.sdp })
      | failed => failed

/-- Answers the offer of the other side. -/
def createAnswer (engine : MediaEngine) (link : Link) :
    Except RelayError LocalDescription × Link :=
  match link.connection with
  | none => (.error .notInitialized, link)
  | some connection =>
    match connection.answer engine with
    | (.error e, connection) => (.error e, { link with connection := some connection })
    | (.ok text, connection) =>
      match link.describe engine connection .answer text with
      | (.ok made, link) => (.ok made, { link with answer := some made.sdp })
      | failed => failed

/-- Takes a candidate of the other side. -/
def addCandidate (engine : MediaEngine) (link : Link) (candidate : String) :
    Except RelayError Unit := do
  (← link.live).addCandidate engine candidate

/-- The audio format that the local description settles on. -/
def preferredCodec (link : Link) : Except RelayError CodecConfig :=
  match link.connection.bind Connection.description with
  | none => .error .missingLocalDescription
  | some description => preferredAudioCodec description

end Link

end RelayMesh

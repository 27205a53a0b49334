import RelayMesh.Host
import RelayMesh.Link.MediaPlan
import RelayMesh.Link.Options
import RelayMesh.Link.ServerUrl

/-!
# The media engine

A live connection belongs to a media engine, which reads descriptions, takes
or refuses them, makes those of this side, and gathers candidates.  What an
engine does there is a parameter, `MediaEngine`, so that the laws of links
hold for every engine; `MediaEngine.onHost` is the engine of a given machine.

`Connection` is the part of a live connection that an exchange of
descriptions moves.  A description that is in turn moves it before the engine
looks at what the description says, so it has moved even where the engine
then refuses the description.

Which descriptions are in turn, what is kept of them and which offer waits for
an answer is the same for every engine (`Connection.setLocal`,
`Connection.setRemote`, `Connection.openOffer?`).  No theorem depends on how
these decide.
-/

namespace RelayMesh

/-- The decisions of a media engine.  Where a media plan is changed, it is changed whether or not
the engine succeeds. -/
structure MediaEngine where
  /-- Whether a text is a session description. -/
  reads : String → Bool
  /-- Takes a description of the other side, in the first exchange or a later one, and says whether
  it did. -/
  accept : (first : Bool) → DescriptionKind → String → MediaPlan → Bool × MediaPlan
  /-- Makes an offer, after an exchange with the latest description of the other side. -/
  offer : (settled : Option String) → MediaPlan → Option String × MediaPlan
  /-- Answers an offer. -/
  answer : String → MediaPlan → Option String × MediaPlan
  /-- Starts to send the tracks of which the other side knows and says whether it did. -/
  startSending : MediaPlan → Bool × MediaPlan
  /-- Whether a text is a candidate. -/
  readsCandidate : String → Bool
  /-- Whether a connection can be set up with some servers. -/
  takesServers : List IceServer → Bool
  /-- The candidates that are found when a connection gathers for the first time. -/
  candidates : List String
  /-- Whether a connection shuts down without a failure. -/
  shutsDown : MediaPlan → Bool

namespace MediaEngine

/-- Whether a server can be used; a relaying one needs a name and a credential. -/
def isServer (server : IceServer) : Bool :=
  server.urls.all (fun url =>
    (ServerUrl.read url).any (fun url =>
      !url.scheme.isRelay || (!server.username.isEmpty && !server.credential.isEmpty)))

/-- The engine of a machine. -/
def onHost (host : Host) : MediaEngine where
  reads text := (Sdp.read? text).isSome
  accept first kind text plan :=
    match Sdp.read? text with
    | some description => plan.accept first kind description
    | none => (false, plan)
  offer settled plan :=
    let (description, plan) := plan.offer (settled.bind Sdp.read?)
    (description.map Sdp.render, plan)
  answer offer plan :=
    match Sdp.read? offer with
    | some description =>
      let (description, plan) := plan.answer description
      (description.map Sdp.render, plan)
    | none => (none, plan)
  startSending := MediaPlan.startSending
  readsCandidate := Candidate.isReadable
  takesServers servers := servers.all isServer
  candidates := host.addresses.map Candidate.ofAddress
  shutsDown _ := true

end MediaEngine

/-- A live connection. -/
structure Connection where
  signaling : SignalingState := .stable
  media : MediaPlan := {}
  /-- The latest description of the other side. -/
  remote : Option String := none
  /-- The latest description of this side. -/
  description : Option String := none
  /-- Whether an exchange has come to its end. -/
  settled : Bool := false
  /-- Whether the connection has gathered candidates; it does so only once. -/
  gathered : Bool := false
deriving Repr, DecidableEq

namespace Connection

/-- Adds a track. -/
def addTrack (connection : Connection) (track : Track) : Connection :=
  { connection with media := connection.media.addTrack track }

/-- Makes the description by which this side offers. -/
def offer (engine : MediaEngine) (connection : Connection) :
    Except RelayError String × Connection :=
  let (text, media) :=
    engine.offer (if connection.settled then connection.remote else none) connection.media
  (text.elim (.error (.media "there is nothing to offer")) .ok, { connection with media })

/-- The offer of the other side that waits for an answer. -/
def openOffer? (connection : Connection) : Option String :=
  match connection.signaling with
  | .haveRemoteOffer | .haveLocalPranswer => connection.remote
  | _ => none

/-- Makes the description by which this side answers. -/
def answer (engine : MediaEngine) (connection : Connection) :
    Except RelayError String × Connection :=
  match connection.openOffer? with
  | none => (.error (.media "there is no offer to answer"), connection)
  | some offer =>
    let (text, media) := engine.answer offer connection.media
    (text.elim (.error (.media "the offer cannot be answered")) .ok, { connection with media })

/-- Sets the local description.  An answer ends the exchange, and the tracks of this side start. -/
def setLocal (engine : MediaEngine) (connection : Connection) (kind : DescriptionKind)
    (text : String) : Except RelayError Unit × Connection :=
  match engine.reads text, connection.signaling.afterLocal? kind with
  | true, some signaling =>
    let connection := { connection with signaling, description := some text }
    if kind = .answer then
      let (started, media) := engine.startSending connection.media
      (if started then .ok () else .error (.media "a track cannot be sent"),
        { connection with media, settled := true })
    else (.ok (), connection)
  | false, _ => (.error (.media "the local description cannot be read"), connection)
  | true, none => (.error (.media "the local description is out of turn"), connection)

/-- Sets the remote description. -/
def setRemote (engine : MediaEngine) (connection : Connection) (kind : DescriptionKind)
    (text : String) : Except RelayError Unit × Connection :=
  match connection.signaling.afterRemote? kind with
  | none => (.error (.invalidDescription "the description is out of turn"), connection)
  | some signaling =>
    let (taken, media) := engine.accept (!connection.settled) kind text connection.media
    (if taken then .ok () else .error (.invalidDescription "the description was refused"),
      { connection with
        signaling, media, remote := some text
        settled := connection.settled || kind = .answer })

/-- Takes a candidate of the other side. -/
def addCandidate (engine : MediaEngine) (connection : Connection) (text : String) :
    Except RelayError Unit :=
  if connection.remote.isNone then .error (.media "there is no remote description")
  else if engine.readsCandidate text then .ok ()
  else .error (.media "the candidate cannot be read")

/-- Shuts the connection down, for good even where that fails. -/
def shutDown (engine : MediaEngine) (connection : Connection) : Except RelayError Unit :=
  if engine.shutsDown connection.media then .ok ()
  else .error (.media "the connection did not shut down")

end Connection

end RelayMesh

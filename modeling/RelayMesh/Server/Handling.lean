import RelayMesh.Server.Basic

/-!
# Handling messages

A session starts with a new link and the message `init`, handles the messages
of its peer in the order in which they come, and finishes by leaving its room
and closing its link.

`Server.react` carries out what a peer asks for.  `Server.handle` decides what
becomes of a failure: a malformed message is dropped, a failure that the
session survives is reported to the peer, and any other one is left to the
caller, which ends the session.
-/

namespace RelayMesh

namespace Server

/-! ## Start and end -/

/-- Starts a session under a fresh identifier. -/
def start (server : Server) (id : String) (listening : Bool) : Outcome :=
  let server := server.move id .new
  match (Link.new server.options).create server.engine with
  | .error e => (server.move id .failed).fails e
  | .ok link =>
    if listening then
      let sessions := server.sessions.insert id { link }
      (({ server with sessions }.deliver id (Message.init id)).move id .initialized).done
    else server.fails .connectionClosed

/-- Finishes a session. -/
def finish (server : Server) (id : String) : Server :=
  let server := ((server.leaveRoom id).closeLink id).move id .closed
  { server with
    lifecycle := server.lifecycle.remove id
    sessions := server.sessions.erase id }

/-- Finishes every session, in order of their identifiers. -/
def finishAll (server : Server) : Server :=
  server.sessions.keys.foldl finish server

/-- Adds a track for audio to the link of a session. -/
def addAudioTrack (server : Server) (id : String) : Outcome :=
  match server.sessions.get? id with
  | none => server.done
  | some session =>
    match session.link.addAudioTrack with
    | .ok link => (server.setLink id link).done
    | .error e => server.fails e

/-! ## Descriptions -/

/-- Marks the session of a failed exchange of descriptions. -/
def negotiationFails (server : Server) (id : String) (failure : RelayError) : Outcome :=
  (server.move id .failed).fails failure

/-- Makes an offer to the peer of a session. -/
def initiateOffer (server : Server) (id : String) : Outcome :=
  let server := server.move id .negotiating
  match server.sessions.get? id with
  | none => server.done
  | some session =>
    match session.link.createOffer server.engine with
    | (.error e, link) => (server.setLink id link).negotiationFails id e
    | (.ok made, link) => (server.setLink id link).send id (Message.offer id made)

/-- Answers the offer of a peer.  Candidates that come with the offer never make it fail. -/
def handleOffer (server : Server) (id : String) (payload : SdpPayload) : Outcome :=
  let server := server.move id .negotiating
  match server.sessions.get? id with
  | none => server.done
  | some session =>
    match session.link.setRemote server.engine payload.sdp with
    | (.error e, link) => (server.setLink id link).negotiationFails id e
    | (.ok _, link) =>
      match link.createAnswer server.engine with
      | (.error e, link) => (server.setLink id link).negotiationFails id e
      | (.ok made, link) => (server.setLink id link).send id (Message.answer id made)

/-- Takes the answer of a peer.  Candidates that come with it never make it fail. -/
def handleAnswer (server : Server) (id : String) (payload : SdpPayload) : Outcome :=
  match server.sessions.get? id with
  | none => server.done
  | some session =>
    match session.link.setRemote server.engine payload.sdp with
    | (.error e, link) => (server.setLink id link).negotiationFails id e
    | (.ok _, link) =>
      ((server.setLink id link).send id (Message.connected id)).andThen (fun server =>
        (server.move id .connected).done)

/-! ## Rooms -/

/-- Puts a node for the peer of a session into a room, after the session has left the room that it
was in.  A node without identifier takes that of the session, and a user without identifier that
of the node. -/
def handleJoin (server : Server) (id : String) (request : JoinRequest) (now : Instant) :
    Outcome :=
  let server := server.leaveRoom id
  let nodeId := request.node.getD id
  let user := request.user.getD nodeId
  let node : Node Float :=
    { Node.new user request.capabilities now with session := some id, link := some id }
  let (replaced, hub) := server.hub.join request.room nodeId node
  let server := { server with hub }.closeLinks replaced.toList
  let server := (server.addSender nodeId id).setMembership id (some ⟨request.room, nodeId⟩)
  match server.hub.evaluate request.room nodeId with
  | .error e => server.fails e
  | .ok (assignment, hub) => { server with hub }.send id (Message.role id assignment)

/-- The failure of a session that has not joined a room. -/
def notJoined : RelayError :=
  .malformedMessage "not joined to a room"

/-- Publishes a stream of the peer's node. -/
def handlePublish (server : Server) (id : String) (request : PublishRequest) : Outcome :=
  match server.membership? id with
  | none => server.fails notJoined
  | some { room, node } =>
    match server.hub.publish room node request.stream request.media with
    | .error e => server.fails e
    | .ok (_, hub) => ({ server with hub }.rebalance room).done

/-- Keeps a report of the peer's node. -/
def handleMetrics (server : Server) (id : String) (load : Load Float) (now : Instant) :
    Outcome :=
  match server.membership? id with
  | none => server.fails notJoined
  | some { room, node } =>
    match server.hub.report room node load now with
    | .error e => server.fails e
    | .ok (assignment, hub) =>
      ({ server with hub }.send id (Message.role id assignment)).andThen (fun server =>
        (server.rebalance room).done)

/-! ## Messages -/

/-- Carries out what a peer asks for. -/
def react (server : Server) (id : String) (now : Instant) : Inbound → Outcome
  | .offer payload => server.handleOffer id payload
  | .answer payload => server.handleAnswer id payload
  | .connected => (server.move id .connected).done
  | .join request => server.handleJoin id request now
  | .publish request => server.handlePublish id request
  | .metrics load => server.handleMetrics id load now
  | .leave => (server.leaveRoom id).done
  | .init => server.done
  | .unknown _ => server.done

/-- Handles a message of a peer. -/
def handle (server : Server) (id : String) (now : Instant) (message : Message) : Outcome :=
  match message.inbound with
  | .error _ => server.done
  | .ok inbound =>
    let outcome := server.react id now inbound
    match outcome.failure with
    | none => outcome
    | some e =>
      if e.isRecoverable then outcome.server.send id (Message.error id e.message) else outcome

/-- Handles a text frame; one that is no message is dropped. -/
def handleText (server : Server) (id : String) (now : Instant) (text : String) : Outcome :=
  match Message.parse text with
  | some message => server.handle id now message
  | none => server.done

/-! ## Frames -/

end Server

/-- What arrives on the connection of a session. -/
inductive Frame where
  | text (text : String)
  /-- Binary data or a ping, which the server ignores. -/
  | other
  | close
deriving Repr, DecidableEq

namespace Server

/-- Handles a frame.  A failure that the session does not survive finishes it, and so does the end
of the connection. -/
def receive (server : Server) (id : String) (now : Instant) : Frame → Server
  | .text text =>
    let outcome := server.handleText id now text
    if outcome.failure.isSome then outcome.server.finish id else outcome.server
  | .other => server
  | .close => server.finish id

end Server

end RelayMesh

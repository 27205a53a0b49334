import RelayMesh.Hub.Health
import RelayMesh.Link.Basic
import RelayMesh.Message.Inbound
import RelayMesh.Session.Lifecycle

/-!
# The server and its sessions

The server keeps the hub, the lifecycle of the sessions, a session record for
every session that has started and not finished, and the sender registry.
The registry says for a node identifier which session is told about the
node's assignments; it is keyed by the node identifier alone.

A session record holds the session's link, its membership in a room and the
messages that it was sent.  The link of a session goes by the identifier of
the session wherever the hub mentions it.

An operation that can fail returns an `Outcome`: the server afterwards, which
may have changed, and the failure.
-/

namespace RelayMesh

/-- The node of a room that a session speaks for. -/
structure Membership where
  room : String
  node : String
deriving Repr, DecidableEq

/-- A session that has started and not finished. -/
structure Session where
  link : Link
  membership : Option Membership := none
  /-- The messages that the session was sent, oldest first. -/
  sent : List Message := []
  /-- Whether the peer still takes messages. -/
  listening : Bool := true

/-- A server. -/
structure Server where
  engine : MediaEngine
  /-- The options of every link. -/
  options : LinkOptions
  hub : Hub Float
  lifecycle : Lifecycle := {}
  /-- The session that is told about a node, under the identifier of the node. -/
  senders : Table String := ∅
  sessions : Table Session := ∅

/-- The server after an operation, and the failure of the operation, if it failed. -/
structure Outcome where
  server : Server
  failure : Option RelayError := none

namespace Outcome

/-- An operation and, unless it fails, another one after it. -/
def andThen (outcome : Outcome) (next : Server → Outcome) : Outcome :=
  match outcome.failure with
  | none => next outcome.server
  | some _ => outcome

end Outcome

namespace Server

/-- A server on which nothing has happened yet. -/
def new (engine : MediaEngine) (options : LinkOptions) (policy : Policy Float) : Server :=
  { engine, options, hub := Hub.new policy }

/-- An operation that succeeds. -/
def done (server : Server) : Outcome := { server }

/-- An operation that fails. -/
def fails (server : Server) (failure : RelayError) : Outcome := { server, failure := some failure }

/-! ## Sessions -/

/-- Changes the record of a session. -/
def modifySession (server : Server) (id : String) (f : Session → Session) : Server :=
  { server with sessions := server.sessions.modify id f }

/-- The node that a session speaks for. -/
def membership? (server : Server) (id : String) : Option Membership :=
  (server.sessions.get? id).bind Session.membership

/-- Sets the node that a session speaks for. -/
def setMembership (server : Server) (id : String) (membership : Option Membership) : Server :=
  server.modifySession id (fun session => { session with membership })

/-- Replaces the link of a session. -/
def setLink (server : Server) (id : String) (link : Link) : Server :=
  server.modifySession id (fun session => { session with link })

/-- Closes the link of a session. -/
def closeLink (server : Server) (id : String) : Server :=
  server.modifySession id (fun session => { session with link := session.link.close })

/-- Closes the links of some sessions. -/
def closeLinks (server : Server) (ids : List String) : Server :=
  ids.foldl closeLink server

/-- The peer of a session takes no more messages. -/
def stopListening (server : Server) (id : String) : Server :=
  server.modifySession id (fun session => { session with listening := false })

/-- Moves a session to a state, if its lifecycle allows it. -/
def move (server : Server) (id : String) (state : SessionState) : Server :=
  { server with lifecycle := server.lifecycle.move id state }

/-! ## Messages to peers -/

/-- Whether the peer of a session takes messages. -/
def isListening (server : Server) (id : String) : Bool :=
  (server.sessions.get? id).any Session.listening

/-- Hands a message to a session; it is lost when the peer takes no messages. -/
def deliver (server : Server) (id : String) (message : Message) : Server :=
  server.modifySession id (fun session =>
    if session.listening then { session with sent := session.sent ++ [message] } else session)

/-- Hands a message to a session whose peer has to take it. -/
def send (server : Server) (id : String) (message : Message) : Outcome :=
  if server.isListening id then (server.deliver id message).done
  else server.fails .connectionClosed

/-- Whether some session is told about a node. -/
def hasSender (server : Server) (node : String) : Bool :=
  server.senders.contains node

/-- From now on a session is told about a node. -/
def addSender (server : Server) (node session : String) : Server :=
  { server with senders := server.senders.insert node session }

/-- A session is no longer told about a node; another session that is told stays. -/
def removeSender (server : Server) (node session : String) : Server :=
  if server.senders.get? node = some session then
    { server with senders := server.senders.erase node }
  else server

/-- Tells the sessions of some nodes the assignments of these nodes. -/
def pushRoles (server : Server) (changes : List (String × Assignment)) : Server :=
  changes.foldl (fun server (node, assignment) =>
    match server.senders.get? node with
    | some session => server.deliver session (Message.role session assignment)
    | none => server) server

/-! ## Rooms -/

/-- Decides about every node of a room and tells the sessions of the changed ones. -/
def rebalance (server : Server) (room : String) : Server :=
  match server.hub.rebalance room with
  | .ok (changes, hub) => { server with hub }.pushRoles changes
  | .error _ => server

/-- Takes the node of a session out of its room, if the session still speaks for it. -/
def leaveRoom (server : Server) (id : String) : Server :=
  match server.membership? id with
  | none => server
  | some { room, node } =>
    let server := (server.setMembership id none).removeSender node id
    match server.hub.leaveSession room node id with
    | (true, hub) => { server with hub }.rebalance room
    | (false, _) => server

/-- Takes a node out of its room, whoever speaks for it, and closes its link. -/
def removeNode (server : Server) (room node : String) : Outcome :=
  match server.hub.leave room node with
  | .ok (link, hub) => ({ server with hub }.closeLinks link.toList).done
  | .error e => server.fails e

/-- Removes a room and returns the nodes that were in it; their links stay open. -/
def removeRoom (server : Server) (room : String) : Except RelayError (List String × Server) :=
  (server.hub.removeRoom room).map (fun (removed, hub) =>
    (removed.nodes.keys, { server with hub }))

/-- One round of the watch over the nodes. -/
def watch (server : Server) (now : Instant) : Except ClockError Server :=
  (server.hub.watch now).map (fun eviction =>
    { server with hub := eviction.hub }.closeLinks eviction.links)

end Server

end RelayMesh

import RelayMesh.Load
import RelayMesh.Media
import RelayMesh.Table
import RelayMesh.Text.Quoted

/-!
# Nodes

A node is a participant of a room: who it is, what it is able to do, what it
reported last and which streams it relays.  A node is kept under its
identifier in a room, so neither the identifier nor the room is repeated in
it; `Node.view` adds them.

A node may be owned by a signaling session and carry that session's link.
-/

namespace RelayMesh

/-- A point in time on the server's clock, in nanoseconds since the start of 1970. -/
abbrev Instant := Int

/-- A participant of a room. -/
structure Node (α : Type) where
  user : String
  role : Role := .receiver
  capabilities : Capabilities α
  load : Load α
  /-- The identifiers of the streams that the node relays. -/
  relaying : IdSet := ∅
  /-- When the node joined or last reported. -/
  lastReport : Instant
  /-- The session that speaks for the node. -/
  session : Option String := none
  /-- The link that carries the node's media. -/
  link : Option String := none

/-- What is shown of a node. -/
structure NodeView (α : Type) where
  id : String
  user : String := ""
  room : String := ""
  role : Role
  capabilities : Capabilities α
  load : Load α
  /-- The identifiers of the streams that the node relays; in increasing order when it comes from
  a node. -/
  relaying : List String

namespace Node

variable {α : Type} [Scalar α]

/-- A node that has just joined. -/
def new (user : String) (capabilities : Capabilities α) (now : Instant) : Node α where
  user
  capabilities
  load := Load.zero
  lastReport := now

/-- What is shown of the node. -/
def view (node : Node α) (id room : String) : NodeView α where
  id
  user := node.user
  room
  role := node.role
  capabilities := node.capabilities
  load := node.load
  relaying := node.relaying.toList

/-- Keeps a report and the time at which it came. -/
def report (node : Node α) (load : Load α) (now : Instant) : Node α :=
  { node with load, lastReport := now }

/-- Whether the node passes the gate for relaying under the default limits. -/
def canForward (node : Node α) : Bool :=
  node.capabilities.allows node.load defaultMaxCpu defaultMaxMemory

/-- Whether the node relays a stream. -/
def relays (node : Node α) (stream : String) : Bool :=
  node.relaying.contains stream

/-- The node without one relayed stream. -/
def stopRelaying (node : Node α) (stream : String) : Node α :=
  { node with relaying := node.relaying.erase stream }

/-- The node with a new role and new relayed streams. -/
def assign (node : Node α) (role : Role) (streams : List String) : Node α :=
  { node with role, relaying := IdSet.ofList streams }

/-- Whether an assignment would change the node. -/
def differsFrom (node : Node α) (role : Role) (streams : List String) : Bool :=
  node.role ≠ role || node.relaying ≠ IdSet.ofList streams

/-- Whether a session speaks for the node. -/
def isOwnedBy (node : Node α) (session : String) : Bool :=
  node.session = some session

/-- A one-line description of the node. -/
def describe (node : Node α) (id room : String) : String :=
  "Node \x7b id: " ++ Text.quoted id ++
    ", room_id: " ++ Text.quoted room ++
    ", role: " ++ node.role.caseName ++
    ", forwarding_streams: " ++ toString node.relaying.size ++
    ", session_id: " ++
      (match node.session with
      | none => "None"
      | some session => "Some(" ++ Text.quoted session ++ ")") ++
    ", has_transport: " ++ toString node.link.isSome ++ " \x7d"

end Node

end RelayMesh

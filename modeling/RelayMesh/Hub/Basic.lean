import RelayMesh.Room.Basic

/-!
# The hub

The hub keeps the rooms and decides about the nodes in them.  A room comes
into being with its first node and goes with its last one; `createRoom` and
`removeRoom` do the same by hand.

An operation that takes a node out of its room, or puts another node in its
place, may end the use of that node's link.  Such an operation returns the
link, and its caller closes it.
-/

namespace RelayMesh

/-- The rooms, and the policy for the choice of relays. -/
structure Hub (α : Type) where
  policy : Policy α
  rooms : Table (Room α) := ∅

namespace Hub

variable {α : Type} [Scalar α]

/-- A hub without rooms. -/
def new (policy : Policy α) : Hub α := { policy }

/-! ## Rooms -/

/-- A room that has to exist. -/
def room (hub : Hub α) (id : String) : Except RelayError (Room α) :=
  match hub.rooms.get? id with
  | some room => .ok room
  | none => .error (.roomNotFound id)

/-- The hub with a room in a new state. -/
def withRoom (hub : Hub α) (id : String) (room : Room α) : Hub α :=
  { hub with rooms := hub.rooms.insert id room }

/-- What is shown of the rooms, in order of their identifiers. -/
def view (hub : Hub α) : List (RoomView α) :=
  hub.rooms.entries.map (fun entry => entry.2.view entry.1)

/-- Creates a room, unless it exists. -/
def createRoom (hub : Hub α) (id : String) : Hub α :=
  if hub.rooms.contains id then hub else hub.withRoom id ∅

/-- Removes a room with all that is in it. -/
def removeRoom (hub : Hub α) (id : String) : Except RelayError (Room α × Hub α) :=
  (hub.room id).map (fun room => (room, { hub with rooms := hub.rooms.erase id }))

/-- Removes a room if no node is left in it. -/
def dropIfEmpty (hub : Hub α) (id : String) : Hub α :=
  if (hub.rooms.get? id).any (fun room => room.nodes.isEmpty) then
    { hub with rooms := hub.rooms.erase id }
  else hub

/-! ## Nodes -/

/-- Adds a node to a room, which is created if need be, in place of the node that is there under
the same identifier.  Returns the link of the replaced node. -/
def join (hub : Hub α) (roomId nodeId : String) (node : Node α) : Option String × Hub α :=
  let hub := hub.createRoom roomId
  let room := (hub.rooms.get? roomId).getD ∅
  ((room.nodes.get? nodeId).bind Node.link, hub.withRoom roomId (room.addNode nodeId node))

/-- Takes a node out of its room.  Returns the link of the node. -/
def leave (hub : Hub α) (roomId nodeId : String) : Except RelayError (Option String × Hub α) :=
  match hub.room roomId with
  | .error e => .error e
  | .ok room =>
    match room.removeNode nodeId with
    | none => .error (.nodeNotFound nodeId)
    | some (node, room) => .ok (node.link, (hub.withRoom roomId room).dropIfEmpty roomId)

/-- Takes a node out of its room if a session speaks for it, and says whether it did.  The session
keeps the link. -/
def leaveSession (hub : Hub α) (roomId nodeId session : String) : Bool × Hub α :=
  match (hub.rooms.get? roomId).bind
      (fun room => room.removeNodeIf nodeId (fun node => node.isOwnedBy session)) with
  | none => (false, hub)
  | some (_, room) => (true, (hub.withRoom roomId room).dropIfEmpty roomId)

/-- Gives a node a link, in place of the one that it has, and says whether the node exists. -/
def attach (hub : Hub α) (roomId nodeId link : String) : Bool × Hub α :=
  match (hub.rooms.get? roomId).filter (fun room => room.nodes.contains nodeId) with
  | none => (false, hub)
  | some room =>
    let nodes := room.nodes.modify nodeId (fun node => { node with link := some link })
    (true, hub.withRoom roomId { room with nodes })

/-- Publishes a stream of a node. -/
def publish (hub : Hub α) (roomId nodeId stream : String) (media : MediaKind) :
    Except RelayError (Stream × Hub α) :=
  match hub.room roomId with
  | .error e => .error e
  | .ok room =>
    (room.addStream stream nodeId media).map (fun (stream, room) =>
      (stream, hub.withRoom roomId room))

/-! ## Decisions -/

/-- Decides about one node. -/
def evaluate (hub : Hub α) (roomId nodeId : String) : Except RelayError (Assignment × Hub α) :=
  match hub.room roomId with
  | .error e => .error e
  | .ok room =>
    (room.evaluate hub.policy nodeId).map (fun applied =>
      (applied.kept, hub.withRoom roomId applied.room))

/-- Keeps a node's report and then decides about the node. -/
def report (hub : Hub α) (roomId nodeId : String) (load : Load α) (now : Instant) :
    Except RelayError (Assignment × Hub α) :=
  match hub.room roomId with
  | .error e => .error e
  | .ok room =>
    match room.report nodeId load now with
    | .error e => .error e
    | .ok room => (hub.withRoom roomId room).evaluate roomId nodeId

/-- Decides about every node of a room and returns the nodes that changed, with their
assignments. -/
def rebalance (hub : Hub α) (roomId : String) :
    Except RelayError (List (String × Assignment) × Hub α) :=
  (hub.room roomId).map (fun room =>
    let (changes, room) := room.rebalance hub.policy
    (changes, hub.withRoom roomId room))

end Hub

end RelayMesh

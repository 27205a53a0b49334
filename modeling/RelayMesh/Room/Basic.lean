import RelayMesh.Selection
import RelayMesh.Stream.Basic

/-!
# Rooms

A room keeps nodes and streams under their identifiers.  The relation "node
`n` relays stream `s`" is written down twice: in the relaying set of `n` and
among the targets of `s`.  `Room.apply`, which carries out an assignment,
writes both.

The operations that can be refused return the new room only on success.
-/

namespace RelayMesh

/-- The nodes and streams of one room. -/
structure Room (α : Type) where
  nodes : Table (Node α) := ∅
  streams : Table Stream := ∅

/-- What is shown of a room. -/
structure RoomView (α : Type) where
  id : String
  nodes : List (NodeView α)
  streams : List StreamView

/-- What carrying out an assignment did: the assignment as it was kept, whether it changed the
node, and the room afterwards. -/
structure Applied (α : Type) where
  kept : Assignment
  changed : Bool
  room : Room α

namespace Room

variable {α : Type} [Scalar α]

/-- The room without nodes and streams. -/
def empty : Room α := {}

instance : EmptyCollection (Room α) := ⟨empty⟩

/-! ## Views -/

/-- What is shown of the nodes, in order of their identifiers. -/
def nodeViews (room : Room α) (id : String) : List (NodeView α) :=
  room.nodes.entries.map (fun entry => entry.2.view entry.1 id)

/-- What is shown of the streams, in order of their identifiers. -/
def streamViews (room : Room α) : List StreamView :=
  room.streams.entries.map (fun entry => entry.2.view entry.1)

/-- The streams as assignments list them, in order of their identifiers. -/
def streamInfos (room : Room α) : List StreamInfo :=
  room.streams.entries.map (fun entry => entry.2.info entry.1)

/-- What is shown of the room. -/
def view (room : Room α) (id : String) : RoomView α :=
  ⟨id, room.nodeViews id, room.streamViews⟩

/-! ## Nodes -/

/-- Puts a node under its identifier, in place of the node that is there. -/
def addNode (room : Room α) (id : String) (node : Node α) : Room α :=
  { room with nodes := room.nodes.insert id node }

/-- The room without a node, without the streams that it publishes and without its place among
the targets of the other streams. -/
def withoutNode (room : Room α) (id : String) : Room α :=
  let published (stream : String) : Bool :=
    (room.streams.get? stream).any (fun s => s.source = id)
  { nodes := (room.nodes.erase id).map (fun _ node =>
      { node with relaying := node.relaying.filter (fun stream _ => !published stream) })
    streams := (room.streams.filter (fun _ stream => stream.source ≠ id)).map (fun _ stream =>
      stream.withoutTarget id) }

/-- Removes a node that a test accepts; `none` when it is absent or rejected. -/
def removeNodeIf (room : Room α) (id : String) (accepts : Node α → Bool) :
    Option (Node α × Room α) :=
  (room.nodes.get? id).bind (fun node =>
    if accepts node then some (node, room.withoutNode id) else none)

/-- Removes a node; `none` when it is absent. -/
def removeNode (room : Room α) (id : String) : Option (Node α × Room α) :=
  room.removeNodeIf id (fun _ => true)

/-- Keeps a node's report. -/
def report (room : Room α) (id : String) (load : Load α) (now : Instant) :
    Except RelayError (Room α) :=
  if room.nodes.contains id then
    .ok { room with nodes := room.nodes.modify id (fun node => node.report load now) }
  else .error (.nodeNotFound id)

/-! ## Streams -/

/-- Publishes a stream of a node of the room.  Publishing it again changes nothing, and publishing
a stream of another node takes it over as a new stream. -/
def addStream (room : Room α) (id source : String) (media : MediaKind) :
    Except RelayError (Stream × Room α) :=
  if room.nodes.contains source then
    let fresh : Stream := { source, media }
    match room.streams.get? id with
    | some stream =>
      if stream.source = source then .ok (stream, room)
      else .ok (fresh, { room with streams := room.streams.insert id fresh })
    | none => .ok (fresh, { room with streams := room.streams.insert id fresh })
  else .error (.nodeNotFound source)

/-- Removes a stream, also from the relaying sets; `none` when it is absent. -/
def removeStream (room : Room α) (id : String) : Option (Stream × Room α) :=
  (room.streams.get? id).map (fun stream =>
    (stream,
      { nodes := room.nodes.map (fun _ node => node.stopRelaying id)
        streams := room.streams.erase id }))

/-! ## Assignments -/

/-- Whether a node may relay a stream: the stream is in the room and not the node's own. -/
def mayRelay (room : Room α) (node stream : String) : Bool :=
  (room.streams.get? stream).any (fun s => s.source ≠ node)

/-- The assignment that is kept of a given one: only streams that the node may relay, and a node
that would relay none of them only stands ready. -/
def restrict (room : Room α) (node : String) (assignment : Assignment) : Assignment :=
  let streams := assignment.streams.filter (fun info => room.mayRelay node info.stream)
  { role :=
      if assignment.role = .hybrid ∧ streams.isEmpty then .forwarder else assignment.role
    streams }

/-- Carries out an assignment: the node takes the role and the streams that are kept, and it is a
target of exactly these streams. -/
def apply (room : Room α) (id : String) (assignment : Assignment) :
    Except RelayError (Applied α) :=
  match room.nodes.get? id with
  | none => .error (.nodeNotFound id)
  | some node =>
    let kept := room.restrict id assignment
    .ok
      { kept
        changed := node.differsFrom kept.role kept.streamIds
        room :=
          { nodes := room.nodes.insert id (node.assign kept.role kept.streamIds)
            streams := room.streams.map (fun stream s =>
              if stream ∈ kept.streamIds then s.withTarget id else s.withoutTarget id) } }

/-! ## Decisions -/

/-- Decides about a node of the room and carries the decision out. -/
def evaluate (room : Room α) (policy : Policy α) (id : String) : Except RelayError (Applied α) :=
  match room.nodes.get? id with
  | none => .error (.nodeNotFound id)
  | some node =>
    room.apply id
      (Selection.choose policy (node.view id "") (room.nodeViews "") room.streamInfos)

/-- Decides about some nodes one after the other, each time from the room as the decisions before
left it.  Returns the changed nodes with what they keep. -/
def evaluateAll (policy : Policy α) : List String → Room α → List (String × Assignment) × Room α
  | [], room => ([], room)
  | id :: rest, room =>
    match room.evaluate policy id with
    | .error _ => evaluateAll policy rest room
    | .ok applied =>
      let (changes, room) := evaluateAll policy rest applied.room
      (if applied.changed then (id, applied.kept) :: changes else changes, room)

/-- Decides about every node, in order of their identifiers. -/
def rebalance (room : Room α) (policy : Policy α) : List (String × Assignment) × Room α :=
  evaluateAll policy room.nodes.keys room

end Room

end RelayMesh

import RelayMesh.Room.Basic
import RelayMesh.Session.Lifecycle
import RelayMesh.Link.State
import RelayMesh.Wire.Load
import RelayMesh.Wire.Media

/-!
# Views in JSON

What the debug pages show of nodes, streams, rooms and sessions.
-/

namespace RelayMesh

open Json

/-- What is shown of a node, as a JSON value. -/
def NodeView.toJson (node : NodeView Float) : Value :=
  .record [("id", .string node.id), ("user_id", .string node.user),
    ("room_id", .string node.room), ("role", node.role.toJson),
    ("capabilities", node.capabilities.toJson), ("metrics", node.load.toJson),
    ("forwarding_streams", .array (node.relaying.map .string))]

/-- What is shown of a stream, as a JSON value. -/
def StreamView.toJson (stream : StreamView) : Value :=
  .record [("id", .string stream.id), ("source_node_id", .string stream.source),
    ("media_type", stream.media.toJson), ("forwarding", .bool stream.forwarding),
    ("target_nodes", .array (stream.targets.map .string)),
    ("buffered_packets", .int stream.buffered)]

/-- What is shown of a room, as a JSON value. -/
def RoomView.toJson (room : RoomView Float) : Value :=
  .record [("id", .string room.id), ("nodes", .array (room.nodes.map NodeView.toJson)),
    ("streams", .array (room.streams.map StreamView.toJson))]

namespace SessionState

/-- The state of a session as a JSON value. -/
def toJson (state : SessionState) : Value :=
  .string state.name

/-- The shape of the state of a session. -/
def shape : Shape SessionState :=
  Shape.choice (all.map (fun state => (state.name, state)))

end SessionState

namespace ConnectionState

/-- The state of a connection as a JSON value. -/
def toJson (state : ConnectionState) : Value :=
  .string state.name

/-- The shape of the state of a connection. -/
def shape : Shape ConnectionState :=
  Shape.choice (all.map (fun state => (state.name, state)))

end ConnectionState

/-- An accepted move of a session as a JSON value. -/
def StateChange.toJson (change : StateChange) : Value :=
  .record [("session_id", .string change.session),
    ("from_state", .ofOption SessionState.toJson change.origin),
    ("to_state", change.target.toJson)]

/-- What is shown of the sessions as a whole, as a JSON value. -/
def LifecycleSummary.toJson (summary : LifecycleSummary) : Value :=
  .record [("total_sessions", .int summary.total), ("connected_sessions", .int summary.connected),
    ("failed_sessions", .int summary.failed), ("success_rate", .real summary.successRate),
    ("state_distribution",
      .record (summary.distribution.map (fun entry => (entry.1.name, .int entry.2)))),
    ("sessions", .object (summary.sessions.map (fun _ state => state.toJson)).entries)]

end RelayMesh

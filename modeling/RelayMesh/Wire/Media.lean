import RelayMesh.Json.Shape
import RelayMesh.Media

/-!
# Media, roles and assignments in JSON

Every type has a `toJson`, which writes a value of it, and a `shape`, which
reads one.
-/

namespace RelayMesh

open Json

namespace MediaKind

/-- A kind of media as a JSON value. -/
def toJson (media : MediaKind) : Value :=
  .string media.name

/-- The shape of a kind of media. -/
def shape : Shape MediaKind :=
  Shape.choice (all.map (fun media => (media.name, media)))

end MediaKind

namespace Role

/-- A role as a JSON value. -/
def toJson (role : Role) : Value :=
  .string role.wireName

/-- The shape of a role. -/
def shape : Shape Role :=
  Shape.choice (all.map (fun role => (role.wireName, role)))

end Role

namespace StreamInfo

/-- A stream as a JSON value. -/
def toJson (info : StreamInfo) : Value :=
  .record [("stream_id", .string info.stream), ("source_node_id", .string info.source),
    ("media_type", info.media.toJson)]

/-- The shape of a stream. -/
def shape : Shape StreamInfo := fun document => do
  match ← document.fields? ["stream_id", "source_node_id", "media_type"] with
  | [stream, source, media] =>
    pure ⟨← required Shape.text stream, ← required Shape.text source,
      ← required MediaKind.shape media⟩
  | _ => none

end StreamInfo

namespace Assignment

/-- An assignment as a JSON value. -/
def toJson (assignment : Assignment) : Value :=
  .record [("role", assignment.role.toJson),
    ("streams", .array (assignment.streams.map StreamInfo.toJson))]

/-- The shape of an assignment. -/
def shape : Shape Assignment := fun document => do
  match ← document.fields? ["role", "streams"] with
  | [role, streams] =>
    pure ⟨← required Role.shape role, ← required (Shape.list StreamInfo.shape) streams⟩
  | _ => none

end Assignment

end RelayMesh

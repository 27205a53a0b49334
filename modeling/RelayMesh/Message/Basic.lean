import RelayMesh.Wire.Link
import RelayMesh.Wire.Media

/-!
# Messages between peers and the server

A message has a type, and it may name a session and carry data.  The server
sends the messages that are built here; `Message.text` is a message on the
wire, and `Message.parse` reads one.
-/

namespace RelayMesh

open Json

/-- A message. -/
structure Message where
  type : String
  session : Option String := none
  data : Option Value := none

namespace Message

/-! ## What the server sends -/

/-- Announces a new session. -/
def init (session : String) : Message :=
  { type := "init", session := some session }

/-- Confirms that descriptions were exchanged. -/
def connected (session : String) : Message :=
  { type := "connected", session := some session }

/-- Offers a description. -/
def offer (session : String) (description : LocalDescription) : Message :=
  { type := "offer", session := some session, data := some description.toJson }

/-- Answers an offer with a description. -/
def answer (session : String) (description : LocalDescription) : Message :=
  { type := "answer", session := some session, data := some description.toJson }

/-- Tells a node its assignment. -/
def role (session : String) (assignment : Assignment) : Message :=
  { type := "role", session := some session, data := some assignment.toJson }

/-- Reports a failure. -/
def error (session description : String) : Message :=
  { type := "error", session := some session
    data := some (.record [("description", .string description)]) }

/-! ## The wire -/

/-- The members of a message, in the order in which they are written; what is absent is left out. -/
def members (message : Message) : List (String × Value) :=
  ("type", .string message.type) ::
    (message.session.toList.map (fun session => ("session_id", .string session)) ++
      message.data.toList.map (fun data => ("data", data)))

/-- A message as a JSON value. -/
def toJson (message : Message) : Value :=
  .record message.members

/-- The text of a message. -/
def text (message : Message) : String :=
  "\x7b" ++ renderMembers message.members ++ "\x7d"

/-- The shape of a message.  Its data stand one level below the top of the text. -/
def shape : Shape Message := fun document => do
  match ← document.fields? ["type", "session_id", "data"] with
  | [type, session, data] =>
    pure
      { type := ← required Shape.text type
        session := ← withDefault none (Shape.optional Shape.text) session
        data := ← withDefault none (Shape.optional (Document.value? (maxDepth - 1))) data }
  | _ => none

/-- The message that a text holds. -/
def parse (text : String) : Option Message :=
  shape.parse text

end Message

end RelayMesh

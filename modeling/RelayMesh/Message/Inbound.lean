import RelayMesh.Error
import RelayMesh.Message.Basic
import RelayMesh.Wire.Load

/-!
# What a peer asks for

`Message.inbound` reads the data of a message as its type demands.  Messages
of the types `offer`, `answer`, `join`, `publish` and `metrics` need an object
as data; a message of an unknown type is not a failure.  Data that cannot be
read are blamed on the type of the message, with one text for whatever is wrong
with them (`Message.typedData`).
-/

namespace RelayMesh

open Json

/-- A description that a peer sends, with its candidates. -/
structure SdpPayload where
  sdp : String
  candidates : List String := []
deriving Repr, DecidableEq

/-- The wish to take part in a room. -/
structure JoinRequest where
  room : String
  user : Option String := none
  node : Option String := none
  capabilities : Capabilities Float := Capabilities.none

/-- The wish to publish a stream. -/
structure PublishRequest where
  stream : String
  media : MediaKind := .audio
deriving Repr, DecidableEq

/-- What a peer asks for. -/
inductive Inbound where
  | init
  | offer (payload : SdpPayload)
  | answer (payload : SdpPayload)
  | connected
  | join (request : JoinRequest)
  | publish (request : PublishRequest)
  | metrics (load : Load Float)
  | leave
  | unknown (type : String)

namespace JoinRequest

/-- The shape of a wish to take part. -/
def shape : Shape JoinRequest := fun document => do
  match ← document.fields? ["room_id", "user_id", "node_id", "capabilities"] with
  | [room, user, node, capabilities] =>
    pure
      { room := ← required Shape.text room
        user := ← withDefault none (Shape.optional Shape.text) user
        node := ← withDefault none (Shape.optional Shape.text) node
        capabilities := ← withDefault Capabilities.none Capabilities.shape capabilities }
  | _ => none

/-- A wish to take part as a JSON value. -/
def toJson (request : JoinRequest) : Value :=
  .record [("room_id", .string request.room), ("user_id", .ofOption .string request.user),
    ("node_id", .ofOption .string request.node), ("capabilities", request.capabilities.toJson)]

end JoinRequest

namespace PublishRequest

/-- The shape of a wish to publish. -/
def shape : Shape PublishRequest := fun document => do
  match ← document.fields? ["stream_id", "media_type"] with
  | [stream, media] =>
    pure ⟨← required Shape.text stream, ← withDefault .audio MediaKind.shape media⟩
  | _ => none

/-- A wish to publish as a JSON value. -/
def toJson (request : PublishRequest) : Value :=
  .record [("stream_id", .string request.stream), ("media_type", request.media.toJson)]

end PublishRequest

namespace Inbound

/-- A description with candidates as the members of an object. -/
def payloadMembers (payload : SdpPayload) : List (String × Value) :=
  [("sdp", .string payload.sdp), ("candidates", .array (payload.candidates.map .string))]

/-- What a peer asks for, with the name of its case. -/
def members : Inbound → String × List (String × Value)
  | init => ("Init", [])
  | connected => ("Connected", [])
  | leave => ("Leave", [])
  | offer payload => ("Offer", payloadMembers payload)
  | answer payload => ("Answer", payloadMembers payload)
  | join request => ("Join", [("request", request.toJson)])
  | publish request =>
    ("Publish", [("stream_id", .string request.stream), ("media_type", request.media.toJson)])
  | metrics load => ("Metrics", [("metrics", load.toJson)])
  | unknown type => ("Unknown", [("type", .string type)])

/-- What a peer asks for as a JSON value. -/
def toJson (inbound : Inbound) : Value :=
  .record (("kind", .string inbound.members.1) :: inbound.members.2)

end Inbound

namespace Message

/-- A failure that blames the message. -/
def malformed {α : Type} (detail : String) : Except RelayError α :=
  .error (.malformedMessage detail)

/-- The data, which have to be an object. -/
def dataMembers (message : Message) : Except RelayError (List (String × Value)) :=
  match message.data.bind Value.members? with
  | some members => .ok members
  | none => malformed (message.type ++ " without data object")

/-- The data read as a value of some type. -/
def typedData {α : Type} (message : Message) (shape : Shape α) : Except RelayError α :=
  message.dataMembers.bind (fun members =>
    match shape (Value.object members).document with
    | some a => .ok a
    | none => malformed (message.type ++ ": the data do not have the expected shape"))

/-- The candidates of a description: a list of strings, which may be missing. -/
def readCandidates : Option Value → Except RelayError (List String)
  | none | some .null => .ok []
  | some (.array items) =>
    items.mapM (fun item =>
      match item with
      | .string candidate => .ok candidate
      | other => malformed ("non-string candidate: " ++ other.render))
  | some other => malformed ("candidates must be an array, got " ++ other.render)

/-- The data read as a description with candidates. -/
def sdpPayload (message : Message) : Except RelayError SdpPayload :=
  message.dataMembers.bind (fun members =>
    match (members.lookup "sdp").bind Value.text? with
    | some sdp => (readCandidates (members.lookup "candidates")).map (⟨sdp, ·⟩)
    | none => malformed (message.type ++ " missing sdp"))

/-- What the sender of a message asks for. -/
def inbound (message : Message) : Except RelayError Inbound :=
  match message.type with
  | "init" => .ok .init
  | "offer" => message.sdpPayload.map .offer
  | "answer" => message.sdpPayload.map .answer
  | "connected" => .ok .connected
  | "join" => (message.typedData JoinRequest.shape).map .join
  | "publish" => (message.typedData PublishRequest.shape).map .publish
  | "metrics" => (message.typedData Load.shape).map .metrics
  | "leave" => .ok .leave
  | other => .ok (.unknown other)

end Message

end RelayMesh

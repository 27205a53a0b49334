import RelayMesh.Json.Shape
import RelayMesh.Link.State
import RelayMesh.Text.Blank

/-!
# Payloads with a session description

A peer sends its description either as an envelope, a JSON record with the
description and perhaps its kind, or as the bare text.  `RemotePayload.read`
tells the two apart: whatever is not an envelope is the text itself.
-/

namespace RelayMesh

/-- A description of this side, and the addresses at which it can be reached. -/
structure LocalDescription where
  sdp : String
  candidates : List String
deriving Repr, DecidableEq, Inhabited

/-- A description of the other side as it was sent. -/
structure RemotePayload where
  /-- The name of the kind; never empty. -/
  kind : Option String
  sdp : String
deriving Repr, DecidableEq

namespace RemotePayload

/-- A text without the blanks around it. -/
def trimmed (text : String) : String :=
  String.ofList (Text.trim text.toList)

/-- The shape of an envelope. -/
def envelope : Json.Shape RemotePayload := fun document => do
  match ← document.fields? ["type", "sdp"] with
  | [kind, sdp] =>
    let kind ← Json.withDefault none (Json.Shape.optional Json.Shape.text) kind
    let sdp ← Json.required Json.Shape.text sdp
    pure ⟨kind.filter (fun name => !name.isEmpty), sdp⟩
  | _ => none

/-- The failure of a payload without description. -/
def empty : Except RelayError RemotePayload :=
  .error (.invalidDescription "empty SDP")

/-- The description in a payload, which must not be blank. -/
def read (payload : String) : Except RelayError RemotePayload :=
  let payload := trimmed payload
  if payload.isEmpty then empty
  else
    let remote := (envelope.parse payload).getD ⟨none, payload⟩
    if (trimmed remote.sdp).isEmpty then empty else .ok remote

end RemotePayload

end RelayMesh

import RelayMesh.Error

/-!
# States and descriptions

The states of a link and of a negotiation, the kinds of session descriptions,
and the rule by which the kind of a remote description is inferred when it is
not given: a peer that has no offer of ours to answer is offering.
-/

namespace RelayMesh

/-- How far a link's connection has come. -/
inductive ConnectionState where
  | new
  | connecting
  | connected
  | disconnected
  | failed
  | closed
deriving Repr, DecidableEq, Inhabited

namespace ConnectionState

/-- The states. -/
def all : List ConnectionState := [new, connecting, connected, disconnected, failed, closed]

/-- The name of a state. -/
def name : ConnectionState → String
  | new => "new"
  | connecting => "connecting"
  | connected => "connected"
  | disconnected => "disconnected"
  | failed => "failed"
  | closed => "closed"

/-- The state of a name; any other text stands for a connection that has not started. -/
def ofName (name : String) : ConnectionState :=
  (all.find? (fun state => state.name = name)).getD new

/-- Whether the connection carries no media any more. -/
def isTerminal : ConnectionState → Bool
  | disconnected | failed | closed => true
  | _ => false

end ConnectionState

/-- How far an exchange of descriptions has come. -/
inductive SignalingState where
  | unspecified
  | stable
  | haveLocalOffer
  | haveRemoteOffer
  | haveLocalPranswer
  | haveRemotePranswer
  | closed
deriving Repr, DecidableEq, Inhabited

namespace SignalingState

/-- The states. -/
def all : List SignalingState :=
  [unspecified, stable, haveLocalOffer, haveRemoteOffer, haveLocalPranswer, haveRemotePranswer,
    closed]

/-- The name of a state. -/
def name : SignalingState → String
  | unspecified => "Unspecified"
  | stable => "stable"
  | haveLocalOffer => "have-local-offer"
  | haveRemoteOffer => "have-remote-offer"
  | haveLocalPranswer => "have-local-pranswer"
  | haveRemotePranswer => "have-remote-pranswer"
  | closed => "closed"

/-- The state of a name. -/
def ofName (name : String) : SignalingState :=
  (all.find? (fun state => state.name = name)).getD unspecified

end SignalingState

/-- What a session description is in an exchange. -/
inductive DescriptionKind where
  | offer
  | answer
  | pranswer
deriving Repr, DecidableEq, Inhabited

namespace DescriptionKind

/-- The name of a kind. -/
def name : DescriptionKind → String
  | offer => "offer"
  | answer => "answer"
  | pranswer => "pranswer"

/-- The kind of a name; the case of its letters does not matter. -/
def ofName (name : String) : Except RelayError DescriptionKind :=
  match name.toLower with
  | "offer" => .ok offer
  | "answer" => .ok answer
  | "pranswer" => .ok pranswer
  | other => .error (.invalidDescription ("unknown type " ++ other))

/-- The kind of a remote description that names none. -/
def infer : SignalingState → Except RelayError DescriptionKind
  | .stable => .ok offer
  | .haveLocalOffer => .ok answer
  | other => .error (.ambiguousDescription ("signaling state " ++ other.name))

end DescriptionKind

namespace SignalingState

/-- The state after a local description was set; `none` where it is out of turn.  An offer that has
not been answered may be replaced by another. -/
def afterLocal? : SignalingState → DescriptionKind → Option SignalingState
  | stable, .offer => some haveLocalOffer
  | haveLocalOffer, .offer => some haveLocalOffer
  | haveRemoteOffer, .answer => some stable
  | haveRemoteOffer, .pranswer => some haveLocalPranswer
  | haveLocalPranswer, .answer => some stable
  | _, _ => none

/-- The state after a remote description was set; `none` where it is out of turn. -/
def afterRemote? : SignalingState → DescriptionKind → Option SignalingState
  | stable, .offer => some haveRemoteOffer
  | haveLocalOffer, .answer => some stable
  | haveLocalOffer, .pranswer => some haveRemotePranswer
  | haveRemotePranswer, .answer => some stable
  | _, _ => none

end SignalingState

end RelayMesh

/-!
# Media, roles and assignments

What a stream carries, which part a node plays in relaying streams, and the
decision about one node.
-/

namespace RelayMesh

/-- What a stream carries. -/
inductive MediaKind where
  | audio
  | video
deriving Repr, DecidableEq, Inhabited

namespace MediaKind

/-- The name of a kind of media. -/
def name : MediaKind → String
  | audio => "audio"
  | video => "video"

/-- Both kinds. -/
def all : List MediaKind := [audio, video]

end MediaKind

/-- The part that a node plays: it only receives, or it stands ready to relay, or it relays. -/
inductive Role where
  | receiver
  | forwarder
  | hybrid
deriving Repr, DecidableEq, Inhabited

namespace Role

/-- The roles. -/
def all : List Role := [receiver, forwarder, hybrid]

/-- Whether the node stands ready to relay or relays. -/
def isForwarding : Role → Bool
  | receiver => false
  | forwarder | hybrid => true

/-- The name of a role in running text. -/
def name : Role → String
  | receiver => "receiver"
  | forwarder => "forwarder"
  | hybrid => "hybrid"

/-- The name of a role in messages. -/
def wireName : Role → String
  | receiver => "RECEIVER"
  | forwarder => "FORWARDER"
  | hybrid => "HYBRID"

/-- The name of a role as a case. -/
def caseName : Role → String
  | receiver => "Receiver"
  | forwarder => "Forwarder"
  | hybrid => "Hybrid"

end Role

/-- A published stream: its identifier, the node that publishes it and what it carries. -/
structure StreamInfo where
  stream : String
  source : String
  media : MediaKind
deriving Repr, DecidableEq, Inhabited

/-- The role of a node and the streams it is to relay. -/
structure Assignment where
  role : Role := .receiver
  streams : List StreamInfo := []
deriving Repr, DecidableEq, Inhabited

namespace Assignment

/-- The assignment of a node that relays nothing. -/
def receiver : Assignment := {}

/-- The identifiers of the streams. -/
def streamIds (assignment : Assignment) : List String :=
  assignment.streams.map StreamInfo.stream

end Assignment

end RelayMesh

import RelayMesh.Stream.Buffer

/-!
# Published streams

A stream knows the node that publishes it and the nodes that relay it, its
targets, in the order in which they were added.  The source is never a
target.  A stream is marked as forwarded when it gains its first target and
unmarked when its last target goes.
-/

namespace RelayMesh

/-- A published stream. -/
structure Stream where
  source : String
  media : MediaKind
  forwarding : Bool := false
  targets : List String := []
  buffer : PacketBuffer := default
deriving Repr, DecidableEq, Inhabited

/-- What is shown of a stream. -/
structure StreamView where
  id : String
  source : String
  media : MediaKind
  forwarding : Bool
  targets : List String
  buffered : Nat
deriving Repr, DecidableEq

namespace Stream

/-- A new target at the end of the list; one that is there already stays where it is. -/
def withTarget (stream : Stream) (node : String) : Stream :=
  if node ∈ stream.targets then stream
  else { stream with targets := stream.targets ++ [node], forwarding := true }

/-- The stream without a target. -/
def withoutTarget (stream : Stream) (node : String) : Stream :=
  let targets := stream.targets.filter (· ≠ node)
  { stream with targets, forwarding := stream.forwarding && !targets.isEmpty }

/-- Makes a node a target and says whether it was none before.  The stream's identifier is needed
only for the failure: the source cannot relay its own stream. -/
def addTarget (stream : Stream) (id node : String) : Except RelayError (Bool × Stream) :=
  if node = stream.source then .error (.selfForwarding node id)
  else .ok (node ∉ stream.targets, stream.withTarget node)

/-- Adds a packet to the buffer. -/
def push (stream : Stream) (packet : Packet) : Stream :=
  { stream with buffer := stream.buffer.push packet }

/-- The stream under its identifier, for an assignment. -/
def info (stream : Stream) (id : String) : StreamInfo :=
  ⟨id, stream.source, stream.media⟩

/-- What is shown of the stream. -/
def view (stream : Stream) (id : String) : StreamView :=
  ⟨id, stream.source, stream.media, stream.forwarding, stream.targets, stream.buffer.size⟩

end Stream

end RelayMesh

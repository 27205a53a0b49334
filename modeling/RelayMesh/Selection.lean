import RelayMesh.Node
import RelayMesh.Policy

/-!
# The choice of relays

`Selection.choose` decides about one node of a room, the candidate, from what
is shown of all nodes and from the published streams.  The candidate is
admitted when

* it passes the gate for relaying and is not alone in the room,
* fewer other nodes than `optimalForwarders` stand ready to relay, and
* of the nodes that pass the gate, fewer than there are free places rank
  above it.

An admitted node relays the streams that the fewest other nodes relay, up to
its limit.  A node that already stands ready to relay ranks higher by the
incumbent bonus, so that small changes of the reports do not move roles
around.
-/

namespace RelayMesh

/-- How many relays a room of some size should have: one per five nodes, between one and ten. -/
def optimalForwarders (nodes : Nat) : Nat :=
  min (max (nodes / 5) 1) 10

namespace Policy

variable {α : Type} [Scalar α]

/-- Whether a node passes the gate for relaying under the limits of the policy. -/
def isEligible (policy : Policy α) (node : NodeView α) : Bool :=
  node.capabilities.allows node.load policy.maxCpu policy.maxMemory

/-- The suitability of a node for relaying, from zero to one. -/
def score (policy : Policy α) (node : NodeView α) : α :=
  let load := node.load
  let bandwidth :=
    if 0 < policy.minBandwidth then Scalar.clampUnit (load.bandwidth / policy.minBandwidth) else 1
  let cpu := 1 - Scalar.clampUnit (load.cpuPercent / 100)
  let memory := 1 - Scalar.clampUnit (load.memoryPercent / 100)
  bandwidth * 0.4 + cpu * 0.3 + memory * 0.2 + load.networkScore * 0.1

/-- The score by which a node is compared with others. -/
def ranking (policy : Policy α) (node : NodeView α) : α :=
  if node.role.isForwarding then policy.score node + policy.incumbentBonus else policy.score node

/-- The most streams that the policy lets a node relay. -/
def streamLimit (policy : Policy α) (node : NodeView α) : Nat :=
  if 0 < policy.maxStreams then min node.capabilities.maxStreams policy.maxStreams
  else node.capabilities.maxStreams

end Policy

namespace Selection

variable {α : Type} [Scalar α]

/-- The nodes other than the candidate. -/
def others (nodes : List (NodeView α)) (candidate : NodeView α) : List (NodeView α) :=
  nodes.filter (fun node => node.id ≠ candidate.id)

/-- How often the other nodes that stand ready to relay list a stream. -/
def coverage (nodes : List (NodeView α)) (candidate : NodeView α) (stream : String) : Nat :=
  (((others nodes candidate).filter (fun node => node.role.isForwarding)).flatMap
    (fun node => node.relaying)).count stream

/-- The priority of a stream falls with every node that relays it already. -/
def priority (covered : String → Nat) (info : StreamInfo) : Int :=
  100 - (covered info.stream : Int) * 10

/-- The streams in the order of their identifiers, and then, with a stable sort, in the order of
their falling priorities. -/
def sortedTwice (covered : String → Nat) (offered : List StreamInfo) : List StreamInfo :=
  (offered.mergeSort (fun a b => decide (a.stream ≤ b.stream))).mergeSort
    (fun a b => decide (priority covered b ≤ priority covered a))

/-- The streams that an admitted node is to relay. -/
def streamsFor (policy : Policy α) (candidate : NodeView α) (nodes : List (NodeView α))
    (streams : List StreamInfo) : List StreamInfo :=
  let foreign := streams.filter (fun stream => stream.source ≠ candidate.id)
  (sortedTwice (coverage nodes candidate) foreign).take (policy.streamLimit candidate)

/-- How many other nodes stand ready to relay. -/
def forwarderCount (nodes : List (NodeView α)) (candidate : NodeView α) : Nat :=
  (others nodes candidate).countP (fun node => node.role.isForwarding)

/-- How many other nodes pass the gate and rank above the candidate. -/
def betterCount (policy : Policy α) (nodes : List (NodeView α)) (candidate : NodeView α) : Nat :=
  (others nodes candidate).countP
    (fun node => policy.isEligible node && decide (policy.ranking candidate < policy.ranking node))

/-- Whether the candidate is to stand ready to relay. -/
def admits (policy : Policy α) (nodes : List (NodeView α)) (candidate : NodeView α) : Bool :=
  let places := optimalForwarders nodes.length
  let taken := forwarderCount nodes candidate
  policy.isEligible candidate && 2 ≤ nodes.length && taken < places &&
    betterCount policy nodes candidate < places - taken

/-- The decision about the candidate. -/
def choose (policy : Policy α) (candidate : NodeView α) (nodes : List (NodeView α))
    (streams : List StreamInfo) : Assignment :=
  if admits policy nodes candidate then
    let streams := streamsFor policy candidate nodes streams
    { role := if streams.isEmpty then .forwarder else .hybrid, streams }
  else .receiver

end Selection

end RelayMesh

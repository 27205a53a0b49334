import RelayMesh.Proofs.Hub.Run

/-!
# A pass repairs a room

A room may be in any state: the two copies of the relation between nodes and
streams disagree, a node lists a stream of its own or one that is gone, a role
does not match the streams.  The decision about a node reads none of this
from that node.  It overwrites what the node lists and the role, and it enters
or strikes the node in the targets of every stream (`mended_decided`).  The
decision about another node touches no target but that node
(`Mended.decided`).  So after one pass everything is right about every node.
-/

namespace RelayMesh

namespace Room

variable {α : Type} {room : Room α} {id other : String} {node otherNode : Node α}

/-- What is right about a node of a room after the decision about it. -/
structure Mended (room : Room α) (id : String) (node : Node α) : Prop where
  /-- The node relays a stream exactly when it is one of the targets. -/
  agrees : room.AgreesAbout id node
  /-- The node relays streams of other nodes of the room only. -/
  foreign : ∀ name, node.relays name = true →
    ∃ stream, room.streams.get? name = some stream ∧ stream.source ≠ id
  /-- The node is a hybrid exactly when it relays anything. -/
  hybrid_iff : node.role = .hybrid ↔ node.relaying ≠ ∅

/-- A node relays no stream of its own, and no stream of its own has it as a target. -/
theorem Mended.not_own (h : room.Mended id node) {name : String} {stream : Stream}
    (hstream : room.streams.get? name = some stream) (hown : stream.source = id) :
    node.relays name = false ∧ id ∉ stream.targets := by
  have hrelays : node.relays name = false := by
    rw [Bool.eq_false_iff]
    intro hrelays
    obtain ⟨found, hfound, hforeign⟩ := h.foreign name hrelays
    rw [hstream] at hfound
    rw [← Option.some.inj hfound] at hforeign
    exact hforeign hown
  refine ⟨hrelays, fun htarget => ?_⟩
  rw [(h.agrees hstream).2 htarget] at hrelays
  cases hrelays

/-- An assignment keeps the streams and their sources. -/
theorem source_assigned {name : String} {stream : Stream}
    (hstream : room.streams.get? name = some stream) (kept : Assignment) :
    ∃ after, (room.assigned id node kept).streams.get? name = some after ∧
      after.source = stream.source := by
  rw [get?_streams_assigned, hstream]
  refine ⟨_, rfl, ?_⟩
  split
  · exact Stream.source_withTarget
  · exact Stream.source_withoutTarget

variable [Scalar α] {policy : Policy α}

/-- The step: the decision about a node puts everything right about it. -/
theorem mended_decided (room : Room α) (policy : Policy α) (id : String) (node : Node α) :
    (room.decided policy id node).Mended id
      (node.assign (room.decision policy id node).role
        (room.decision policy id node).streamIds) where
  agrees := agreesAbout_assigned _
  foreign name hrelays := by
    obtain ⟨info, hinfo, rfl⟩ := List.mem_map.1 ((Node.relays_assign ..).1 hrelays)
    have hmay := mayRelay_of_mem_decision hinfo
    rw [mayRelay, Option.any_eq_true] at hmay
    obtain ⟨stream, hstream, hforeign⟩ := hmay
    obtain ⟨after, hafter, hsource⟩ := source_assigned hstream (room.decision policy id node)
    refine ⟨after, hafter, ?_⟩
    rw [hsource]
    simpa using hforeign
  hybrid_iff := by
    rw [ne_eq, Node.relaying_assign_eq_empty_iff, Assignment.streamIds, List.map_eq_nil_iff]
    exact Selection.choose_role_eq_hybrid

/-- What is right about a node stays so in the decisions about the others. -/
theorem Mended.decided (h : room.Mended other otherNode) (hne : other ≠ id) (policy : Policy α)
    (node : Node α) : (room.decided policy id node).Mended other otherNode where
  agrees := h.agrees.assigned hne _
  foreign name hrelays := by
    obtain ⟨stream, hstream, hforeign⟩ := h.foreign name hrelays
    obtain ⟨after, hafter, hsource⟩ := source_assigned hstream (room.decision policy id node)
    exact ⟨after, hafter, by rw [hsource]; exact hforeign⟩
  hybrid_iff := h.hybrid_iff

/-- After a pass everything is right about every node, whatever the room was before. -/
theorem mended_rebalance (hget : (room.rebalance policy).2.nodes.get? id = some node) :
    (room.rebalance policy).2.Mended id node :=
  forall_get?_rebalance (fun now id node _ => mended_decided now policy id node)
    (fun _ _ node _ _ _ hne h => h.decided hne policy node) hget

end Room

/-! ## The pass of the hub -/

namespace Hub

variable {α : Type} [Scalar α]

/-- A pass over a room of the hub succeeds and keeps the nodes and the streams.  After it, every
node relays exactly the streams that list it as a target, all of them streams of other nodes, and it
is a hybrid exactly when there are any. -/
theorem rebalance_mends {hub : Hub α} {roomId : String} {room : Room α}
    (hroom : hub.rooms.get? roomId = some room) :
    ∃ changes hubAfter after,
      hub.rebalance roomId = .ok (changes, hubAfter) ∧
        hubAfter.rooms.get? roomId = some after ∧
        after.nodes.keys = room.nodes.keys ∧ after.streamInfos = room.streamInfos ∧
        ∀ id node, after.nodes.get? id = some node → after.Mended id node := by
  exact ⟨_, _, (room.rebalance hub.policy).2, rebalance_of_get? hroom, get?_withRoom_self ..,
    Room.keys_rebalance, Room.streamInfos_rebalance, fun id node hget => Room.mended_rebalance hget⟩

/-- A node that is willing to relay and lists some streams. -/
def relaying (role : Role) (streams : List String) : Node Float where
  user := "relaying"
  role
  capabilities := ⟨true, 0, 2⟩
  load := Load.zero
  relaying := IdSet.ofList streams
  lastReport := 0

/-- The first node is a hybrid that relays nothing, the second one relays a stream of its own and
one that is gone, and the third one is the target of a stream that it does not list. -/
def garbled : Room Float where
  nodes := Table.ofList [("a", relaying .hybrid []), ("b", relaying .receiver ["gone", "t"]),
    ("c", relaying .forwarder [])]
  streams := Table.ofList [("s", { source := "a", media := .audio, targets := ["c", "c"] }),
    ("t", { source := "b", media := .video, targets := ["b"] })]

/-- Before the pass the second node relays a stream of its own, and after it everything is right. -/
theorem rebalance_mends_garbled :
    ((Hub.new Policy.standard).withRoom "r" garbled).rooms.get? "r" = some garbled ∧
      garbled.nodes.get? "b" = some (relaying .receiver ["gone", "t"]) ∧
      ¬garbled.Mended "b" (relaying .receiver ["gone", "t"]) ∧
      ∃ changes hubAfter after,
        ((Hub.new Policy.standard).withRoom "r" garbled).rebalance "r" = .ok (changes, hubAfter) ∧
          hubAfter.rooms.get? "r" = some after ∧
          after.nodes.keys = garbled.nodes.keys ∧ after.streamInfos = garbled.streamInfos ∧
          ∀ id node, after.nodes.get? id = some node → after.Mended id node := by
  have hroom :
      ((Hub.new Policy.standard).withRoom "r" garbled).rooms.get? "r" = some garbled :=
    get?_withRoom_self ..
  have hown : garbled.streams.get? "t" =
      some { source := "b", media := .video, targets := ["b"] } := by rfl
  refine ⟨hroom, by rfl, fun hmended => ?_, rebalance_mends hroom⟩
  have htargets := (hmended.not_own hown rfl).2
  simp at htargets

end Hub

end RelayMesh

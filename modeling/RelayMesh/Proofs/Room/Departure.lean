import RelayMesh.Proofs.Room.Relation

/-!
# What a node takes with it

A node that leaves a room takes its own streams with it.  The relaying sets of
the others lose these streams, and the streams that stay lose the node as a
target.  Nothing else changes.

* `Stream.LosesTarget` and `Room.Departed` say this without the operations that
  do it, for any room, also one in which the two copies of the relation
  disagree.  `departed_withoutNode` is the proof.
* `Unmentioned.removeNode_addNode` is the converse: a node of which the room
  knows nothing leaves nothing behind.  In a well-formed room that is every node
  that is not there (`WellFormed.removeNode_addNode`).
-/

namespace RelayMesh

/-! ## Streams that lose a target -/

namespace Stream

/-- A stream before and after it lost a target. -/
structure LosesTarget (node : String) (before after : Stream) : Prop where
  /-- The other targets stay, in their order. -/
  targets : after.targets = before.targets.filter (· ≠ node)
  /-- The mark stays as long as there are targets. -/
  forwarding_iff : after.forwarding = true ↔ before.forwarding = true ∧ after.targets ≠ []
  source : after.source = before.source
  media : after.media = before.media
  buffer : after.buffer = before.buffer

variable {stream : Stream} {node : String}

theorem losesTarget_withoutTarget : LosesTarget node stream (stream.withoutTarget node) where
  targets := rfl
  forwarding_iff := by simp [withoutTarget]
  source := rfl
  media := rfl
  buffer := rfl

/-- A node that is no target is not missed. -/
theorem withoutTarget_of_not_mem (hnot : node ∉ stream.targets)
    (hmarked : stream.forwarding = true → stream.targets ≠ []) :
    stream.withoutTarget node = stream := by
  have htargets : stream.targets.filter (· ≠ node) = stream.targets := by
    apply List.filter_eq_self.2
    intro target htarget
    have hne : target ≠ node := fun heq => hnot (heq ▸ htarget)
    simp [hne]
  have hforwarding : (stream.forwarding && !stream.targets.isEmpty) = stream.forwarding := by
    cases hmark : stream.forwarding with
    | false => rfl
    | true => simp [hmarked hmark]
  unfold withoutTarget
  simp only [htargets, hforwarding]

end Stream

/-- Where no stream is gone, a node keeps what it relays. -/
theorem Node.without_of_not_gone {α : Type} {node : Node α} {gone : String → Bool}
    (h : ∀ stream, gone stream = false) : node.without gone = node := by
  have hrelaying : node.relaying.filter (fun stream _ => !gone stream) = node.relaying := by
    apply Table.ext_get?
    intro stream
    rw [Table.get?_filter]
    cases node.relaying.get? stream with
    | none => rfl
    | some => simp [Option.filter, h]
  rw [without, hrelaying]

namespace Room

variable {α : Type} {room : Room α} {id : String} {node : Node α}

/-! ## Departures -/

/-- A room before and after a node left it. -/
structure Departed (room : Room α) (id : String) (after : Room α) : Prop where
  /-- The other nodes stay, and nobody comes. -/
  contains_node : ∀ other, after.nodes.contains other = true ↔
    room.nodes.contains other = true ∧ other ≠ id
  /-- The streams that the node did not publish stay, and none comes. -/
  contains_stream : ∀ name, after.streams.contains name = true ↔
    room.streams.contains name = true ∧ room.publishes id name = false
  /-- The other nodes relay what they did, apart from the streams that the node published. -/
  relays_iff : ∀ {other before now}, room.nodes.get? other = some before →
    after.nodes.get? other = some now → ∀ name,
      now.relays name = true ↔ before.relays name = true ∧ room.publishes id name = false
  /-- Nothing but the relaying set of another node changes. -/
  same_node : ∀ {other before now}, room.nodes.get? other = some before →
    after.nodes.get? other = some now → now = { before with relaying := now.relaying }
  losesTarget : ∀ {name before now}, room.streams.get? name = some before →
    after.streams.get? name = some now → Stream.LosesTarget id before now

theorem contains_streams_withoutNode (name : String) :
    (room.withoutNode id).streams.contains name = true ↔
      room.streams.contains name = true ∧ room.publishes id name = false := by
  rw [Table.contains, get?_streams_withoutNode, Option.isSome_map, Table.contains, publishes]
  cases room.streams.get? name with
  | none => simp
  | some stream => by_cases hown : stream.source = id <;> simp [hown]

theorem departed_withoutNode (room : Room α) (id : String) :
    room.Departed id (room.withoutNode id) where
  contains_node other := by
    rw [Table.contains, get?_nodes_withoutNode, Table.contains]
    split
    · rename_i heq
      simp [heq]
    · rename_i hne
      simp [hne]
  contains_stream := contains_streams_withoutNode
  relays_iff hbefore hnow name := by
    obtain ⟨-, found, hfound, rfl⟩ := of_get?_nodes_withoutNode hnow
    rw [hbefore] at hfound
    rw [← Option.some.inj hfound, Node.relays_without]
  same_node hbefore hnow := by
    obtain ⟨-, found, hfound, rfl⟩ := of_get?_nodes_withoutNode hnow
    rw [hbefore] at hfound
    rw [← Option.some.inj hfound]
    rfl
  losesTarget hbefore hnow := by
    obtain ⟨found, hfound, -, rfl⟩ := of_get?_streams_withoutNode hnow
    rw [hbefore] at hfound
    rw [← Option.some.inj hfound]
    exact Stream.losesTarget_withoutTarget

/-! ## Nodes that come and go -/

/-- No node, no source and no target of the room has an identifier. -/
structure Unmentioned (room : Room α) (id : String) : Prop where
  absent : room.nodes.get? id = none
  not_source : ∀ {name stream}, room.streams.get? name = some stream → stream.source ≠ id
  not_target : ∀ {name stream}, room.streams.get? name = some stream → id ∉ stream.targets

/-- Only streams with targets are marked as forwarded. -/
def MarksTargets (room : Room α) : Prop :=
  ∀ ⦃name stream⦄, room.streams.get? name = some stream → stream.forwarding = true →
    stream.targets ≠ []

/-- A well-formed room does not mention a node that is not there. -/
theorem WellFormed.unmentioned (h : room.WellFormed) (habsent : room.nodes.get? id = none) :
    room.Unmentioned id := by
  have hnone : ¬room.nodes.contains id = true := by simp [Table.contains, habsent]
  refine ⟨habsent, ?_, ?_⟩
  · intro name stream hstream hsource
    exact hnone (hsource ▸ h.source_mem hstream)
  · intro name stream hstream htarget
    exact hnone (h.target_mem hstream htarget)

theorem WellFormed.marksTargets (h : room.WellFormed) : room.MarksTargets :=
  fun _ _ hstream hmark => (h.stream_wellFormed hstream).forwarding_iff.1 hmark

theorem Unmentioned.publishes (h : room.Unmentioned id) (name : String) :
    room.publishes id name = false := by
  rw [Room.publishes]
  cases hstream : room.streams.get? name with
  | none => rfl
  | some stream => simp [h.not_source hstream]

theorem Unmentioned.nodes_withoutNode_addNode (h : room.Unmentioned id) (node : Node α) :
    ((room.addNode id node).withoutNode id).nodes = room.nodes := by
  apply Table.ext_get?
  intro other
  rw [get?_nodes_withoutNode, get?_nodes_addNode]
  by_cases heq : other = id
  · simp [heq, h.absent]
  · have hkeeps : ∀ found : Node α, found.without ((room.addNode id node).publishes id) = found :=
      fun found => Node.without_of_not_gone h.publishes
    simp [heq, hkeeps]

theorem Unmentioned.streams_withoutNode_addNode (h : room.Unmentioned id)
    (hmarks : room.MarksTargets) (node : Node α) :
    ((room.addNode id node).withoutNode id).streams = room.streams := by
  apply Table.ext_get?
  intro name
  have hstreams : (room.addNode id node).streams = room.streams := rfl
  rw [get?_streams_withoutNode, hstreams]
  cases hstream : room.streams.get? name with
  | none => rfl
  | some stream =>
    have hsame : stream.withoutTarget id = stream :=
      Stream.withoutTarget_of_not_mem (h.not_target hstream) (hmarks hstream)
    simp [Option.filter, h.not_source hstream, hsame]

/-- A node of which the room knows nothing comes and goes without a trace. -/
theorem Unmentioned.removeNode_addNode (h : room.Unmentioned id) (hmarks : room.MarksTargets)
    (node : Node α) : (room.addNode id node).removeNode id = some (node, room) := by
  have hthere : (room.addNode id node).nodes.get? id = some node := by
    rw [get?_nodes_addNode, if_pos rfl]
  have hback : (room.addNode id node).withoutNode id = room := by
    have hnodes := h.nodes_withoutNode_addNode node
    have hstreams := h.streams_withoutNode_addNode hmarks node
    calc (room.addNode id node).withoutNode id
      _ = ⟨((room.addNode id node).withoutNode id).nodes,
            ((room.addNode id node).withoutNode id).streams⟩ := rfl
      _ = room := by rw [hnodes, hstreams]
  unfold removeNode
  rw [removeNodeIf_eq_some]
  exact ⟨hthere, rfl, hback⟩

theorem WellFormed.removeNode_addNode (h : room.WellFormed) (habsent : room.nodes.get? id = none)
    (node : Node α) : (room.addNode id node).removeNode id = some (node, room) :=
  (h.unmentioned habsent).removeNode_addNode h.marksTargets node

/-! ## Removals -/

/-- A removal takes a node out exactly when the node is there and the test accepts it.  Then the
room has the other nodes and the streams that they publish; the relaying sets have lost the streams
that are gone, the targets have lost the node, and everything else is as it was.  A node that comes
to a room that does not mention it and leaves again gives the room back. -/
theorem removeNodeIf_takes_traces (room : Room α) (id : String) :
    (∀ accepts : Node α → Bool,
      match room.nodes.get? id with
      | none => room.removeNodeIf id accepts = none
      | some node =>
        if accepts node = true then
          ∃ after, room.removeNodeIf id accepts = some (node, after) ∧ room.Departed id after
        else room.removeNodeIf id accepts = none) ∧
    (room.Unmentioned id → room.MarksTargets →
      ∀ node, (room.addNode id node).removeNode id = some (node, room)) := by
  constructor
  · intro accepts
    split
    · rename_i habsent
      simp [removeNodeIf, habsent]
    · rename_i node hnode
      split
      · rename_i haccepts
        refine ⟨room.withoutNode id, ?_, departed_withoutNode room id⟩
        rw [removeNodeIf_eq_some]
        exact ⟨hnode, haccepts, rfl⟩
      · rename_i hrejects
        simp [removeNodeIf, hnode, hrejects]
  · intro hunmentioned hmarks node
    exact hunmentioned.removeNode_addNode hmarks node

/-- A hybrid that relays one stream. -/
def bridging (stream : String) : Node Float where
  user := "bridging"
  role := .hybrid
  capabilities := ⟨true, 0, 1⟩
  load := Load.zero
  relaying := IdSet.ofList [stream]
  lastReport := 0

/-- Two nodes that relay each other's stream. -/
def bridged : Room Float where
  nodes := Table.ofList [("a", bridging "s"), ("b", bridging "t")]
  streams := Table.ofList
    [("s", { source := "b", media := .audio, forwarding := true, targets := ["a"] }),
      ("t", { source := "a", media := .video, forwarding := true, targets := ["b"] })]

/-- The second node takes its stream and its place as a target with it, and a third one comes and
goes without a trace. -/
theorem removeNodeIf_takes_traces_bridged :
    bridged.Unmentioned "c" ∧ bridged.MarksTargets ∧
      (∀ node, (bridged.addNode "c" node).removeNode "c" = some (node, bridged)) ∧
      ∃ after, bridged.removeNodeIf "b" (fun node => node.relays "t") = some (bridging "t", after) ∧
        bridged.Departed "b" after := by
  have hentries : ∀ entry ∈ bridged.streams.entries,
      entry.2.source ≠ "c" ∧ "c" ∉ entry.2.targets ∧ entry.2.targets ≠ [] := by decide
  have hstreams : ∀ name stream, bridged.streams.get? name = some stream →
      stream.source ≠ "c" ∧ "c" ∉ stream.targets ∧ stream.targets ≠ [] :=
    fun name stream hstream => hentries (name, stream) ((Table.mem_entries_iff ..).2 hstream)
  have hunmentioned : bridged.Unmentioned "c" :=
    ⟨rfl, fun h => (hstreams _ _ h).1, fun h => (hstreams _ _ h).2.1⟩
  have hmarks : bridged.MarksTargets := fun _ _ h _ => (hstreams _ _ h).2.2
  refine ⟨hunmentioned, hmarks, (removeNodeIf_takes_traces bridged "c").2 hunmentioned hmarks, ?_⟩
  exact (removeNodeIf_takes_traces bridged "b").1 (fun node => node.relays "t")

end Room

end RelayMesh

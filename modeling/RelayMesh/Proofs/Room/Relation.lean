import RelayMesh.Proofs.Room.Decision

/-!
# The relation between nodes and the streams that they relay

The relation "node `n` relays stream `s`" is kept twice, in the relaying set
of `n` and among the targets of `s`.  This file says when the two copies are
sound, when they agree, and what every change of a room does to both.

* `Room.WellFormed` lists what ties nodes and streams together.  Every change
  of a room keeps it (`WellFormed.addNode`, `WellFormed.withoutNode`,
  `WellFormed.modifyNode`, `WellFormed.withFresh`, `WellFormed.decided`).
* `Room.Agrees` says that the two copies of the relation are the same.  A
  departure, a report and a decision keep it.  An arrival keeps it unless the
  node takes the place of one that relays (`agrees_addNode_iff`), and a new
  stream keeps it unless it takes the place of one that is relayed
  (`agrees_withFresh_iff`).
-/

namespace RelayMesh

/-! ## Sound streams -/

namespace Stream

/-- The targets of a stream are listed once, the source is none of them, and the stream is marked
as forwarded exactly when it has targets. -/
structure WellFormed (stream : Stream) : Prop where
  nodup : stream.targets.Nodup
  source_not_mem : stream.source ∉ stream.targets
  forwarding_iff : stream.forwarding = true ↔ stream.targets ≠ []

variable {stream : Stream} {node : String}

theorem wellFormed_fresh (source : String) (media : MediaKind) :
    WellFormed { source, media } :=
  ⟨List.nodup_nil, List.not_mem_nil, by simp⟩

theorem WellFormed.withTarget (h : stream.WellFormed) (hforeign : stream.source ≠ node) :
    (stream.withTarget node).WellFormed := by
  rw [Stream.withTarget]
  split
  · exact h
  · rename_i hnot
    refine ⟨?_, ?_, by simp⟩
    · refine List.nodup_append.2 ⟨h.nodup, by simp, ?_⟩
      intro target hmem other hother heq
      rw [heq, List.mem_singleton.1 hother] at hmem
      exact hnot hmem
    · simp only [List.mem_append, List.mem_singleton, not_or]
      exact ⟨h.source_not_mem, hforeign⟩

theorem WellFormed.withoutTarget (h : stream.WellFormed) (node : String) :
    (stream.withoutTarget node).WellFormed := by
  refine ⟨h.nodup.filter _, fun hmem => ?_, ?_⟩
  · exact h.source_not_mem (List.mem_of_mem_filter hmem)
  · simp only [Stream.withoutTarget, Bool.and_eq_true, h.forwarding_iff, Bool.not_eq_true',
      List.isEmpty_eq_false_iff]
    constructor
    · exact And.right
    · intro hrest
      refine ⟨fun hnil => hrest ?_, hrest⟩
      rw [hnil]
      rfl

end Stream

namespace Node

variable {α : Type} {node : Node α} {stream : String}

theorem relays_assign (role : Role) (streams : List String) :
    (node.assign role streams).relays stream = true ↔ stream ∈ streams :=
  IdSet.contains_ofList ..

/-- The node without the streams that are gone. -/
def without (node : Node α) (gone : String → Bool) : Node α :=
  { node with relaying := node.relaying.filter (fun stream _ => !gone stream) }

theorem relays_without (gone : String → Bool) :
    (node.without gone).relays stream = true ↔ node.relays stream = true ∧ gone stream = false := by
  simp only [relays, without, Table.contains, Table.get?_filter]
  cases node.relaying.get? stream <;> cases gone stream <;> simp

theorem relaying_eq_empty_iff : node.relaying = ∅ ↔ ∀ stream, node.relays stream = false := by
  constructor
  · intro h stream
    rw [relays, h]
    rfl
  · intro h
    exact IdSet.ext_contains h

theorem relaying_assign_eq_empty_iff (role : Role) (streams : List String) :
    (node.assign role streams).relaying = ∅ ↔ streams = [] := by
  rw [relaying_eq_empty_iff, List.eq_nil_iff_forall_not_mem]
  simp only [← Bool.not_eq_true, relays_assign]

end Node

namespace Room

variable {α : Type} {room : Room α} {id : String} {node : Node α}

/-! ## Well-formed rooms -/

/-- What ties the nodes and the streams of a room together. -/
structure WellFormed (room : Room α) : Prop where
  /-- The source of a stream is in the room. -/
  source_mem : ∀ {id stream}, room.streams.get? id = some stream →
    room.nodes.contains stream.source = true
  /-- The targets of a stream are in the room. -/
  target_mem : ∀ {id stream target}, room.streams.get? id = some stream →
    target ∈ stream.targets → room.nodes.contains target = true
  stream_wellFormed : ∀ {id stream}, room.streams.get? id = some stream → stream.WellFormed
  /-- A relayed stream is in the room. -/
  relayed_mem : ∀ {id node stream}, room.nodes.get? id = some node → node.relays stream = true →
    room.streams.contains stream = true
  /-- A node that relays is a hybrid. -/
  role_of_relays : ∀ {id node stream}, room.nodes.get? id = some node →
    node.relays stream = true → node.role = .hybrid

/-- The two copies of the relation agree: a node lists a stream as relayed exactly when the stream
lists the node as a target. -/
def Agrees (room : Room α) : Prop :=
  ∀ {id node name stream}, room.nodes.get? id = some node →
    room.streams.get? name = some stream → (node.relays name = true ↔ id ∈ stream.targets)

theorem wellFormed_empty : (∅ : Room α).WellFormed where
  source_mem h := nomatch h
  target_mem h := nomatch h
  stream_wellFormed h := nomatch h
  relayed_mem h := nomatch h
  role_of_relays h := nomatch h

theorem agrees_empty : (∅ : Room α).Agrees :=
  fun h => nomatch h

/-! ## Arrivals -/

theorem get?_nodes_addNode (other : String) :
    (room.addNode id node).nodes.get? other =
      if other = id then some node else room.nodes.get? other :=
  Table.get?_insert ..

theorem contains_nodes_addNode {other : String} (h : room.nodes.contains other = true) :
    (room.addNode id node).nodes.contains other = true := by
  rw [Table.contains, get?_nodes_addNode]
  split
  · rfl
  · exact h

theorem WellFormed.addNode (h : room.WellFormed) (hnew : node.relaying = ∅) :
    (room.addNode id node).WellFormed where
  source_mem hstream := contains_nodes_addNode (h.source_mem hstream)
  target_mem hstream htarget := contains_nodes_addNode (h.target_mem hstream htarget)
  stream_wellFormed hstream := h.stream_wellFormed hstream
  relayed_mem hnode hrelays := by
    rw [get?_nodes_addNode] at hnode
    split at hnode
    · rw [← Option.some.inj hnode, Node.relaying_eq_empty_iff.1 hnew] at hrelays
      exact absurd hrelays Bool.false_ne_true
    · exact h.relayed_mem hnode hrelays
  role_of_relays hnode hrelays := by
    rw [get?_nodes_addNode] at hnode
    split at hnode
    · rw [← Option.some.inj hnode, Node.relaying_eq_empty_iff.1 hnew] at hrelays
      exact absurd hrelays Bool.false_ne_true
    · exact h.role_of_relays hnode hrelays

/-- A node that arrives without streams keeps the agreement exactly when it does not take the place
of a node that relays. -/
theorem agrees_addNode_iff (hwf : room.WellFormed) (hagrees : room.Agrees)
    (hnew : node.relaying = ∅) :
    (room.addNode id node).Agrees ↔
      ∀ old, room.nodes.get? id = some old → old.relaying = ∅ := by
  constructor
  · intro hafter old hold
    refine Node.relaying_eq_empty_iff.2 fun name => Bool.eq_false_iff.2 fun hrelays => ?_
    obtain ⟨stream, hstream⟩ := Table.contains_iff.1 (hwf.relayed_mem hold hrelays)
    have htarget : id ∈ stream.targets := (hagrees hold hstream).1 hrelays
    have hself : (room.addNode id node).nodes.get? id = some node := by
      rw [get?_nodes_addNode, if_pos rfl]
    have hnode := (hafter hself hstream).2 htarget
    rw [Node.relaying_eq_empty_iff.1 hnew] at hnode
    exact Bool.false_ne_true hnode
  · intro hold other otherNode name stream hother hstream
    rw [get?_nodes_addNode] at hother
    split at hother
    · rename_i heq
      rw [← Option.some.inj hother, Node.relaying_eq_empty_iff.1 hnew, heq]
      refine ⟨fun hfalse => absurd hfalse Bool.false_ne_true, fun htarget => ?_⟩
      obtain ⟨old, hget⟩ := Table.contains_iff.1 (hwf.target_mem hstream htarget)
      have hrelays := (hagrees hget hstream).2 htarget
      rw [Node.relaying_eq_empty_iff.1 (hold old hget)] at hrelays
      exact hrelays
    · exact hagrees hother hstream

/-! ## Departures -/

/-- Whether a node publishes a stream of the room. -/
def publishes (room : Room α) (node stream : String) : Bool :=
  (room.streams.get? stream).any (fun s => s.source = node)

theorem publishes_iff {source name : String} :
    room.publishes source name = true ↔
      ∃ stream, room.streams.get? name = some stream ∧ stream.source = source := by
  rw [publishes, Option.any_eq_true]
  simp

theorem get?_nodes_withoutNode (other : String) :
    (room.withoutNode id).nodes.get? other =
      if other = id then none
      else (room.nodes.get? other).map (fun node => node.without (room.publishes id)) := by
  rw [withoutNode, Table.get?_map, Table.get?_erase]
  split <;> rfl

theorem get?_streams_withoutNode (name : String) :
    (room.withoutNode id).streams.get? name =
      ((room.streams.get? name).filter (fun stream => stream.source ≠ id)).map
        (fun stream => stream.withoutTarget id) := by
  rw [withoutNode, Table.get?_map, Table.get?_filter]

theorem removeNodeIf_eq_some {accepts : Node α → Bool} {after : Room α} :
    room.removeNodeIf id accepts = some (node, after) ↔
      room.nodes.get? id = some node ∧ accepts node = true ∧ room.withoutNode id = after := by
  simp [removeNodeIf, Option.bind_eq_some_iff]

/-- A node that stays has lost the streams of the node that left. -/
theorem of_get?_nodes_withoutNode {other : String} {after : Node α}
    (h : (room.withoutNode id).nodes.get? other = some after) :
    other ≠ id ∧ ∃ before, room.nodes.get? other = some before ∧
      after = before.without (room.publishes id) := by
  rw [get?_nodes_withoutNode] at h
  split at h
  · simp at h
  · rename_i hne
    obtain ⟨before, hbefore, heq⟩ := Option.map_eq_some_iff.1 h
    exact ⟨hne, before, hbefore, heq.symm⟩

/-- A stream that stays is not one of the node that left, and has lost that node as a target. -/
theorem of_get?_streams_withoutNode {name : String} {after : Stream}
    (h : (room.withoutNode id).streams.get? name = some after) :
    ∃ before, room.streams.get? name = some before ∧ before.source ≠ id ∧
      after = before.withoutTarget id := by
  rw [get?_streams_withoutNode] at h
  obtain ⟨before, hbefore, heq⟩ := Option.map_eq_some_iff.1 h
  obtain ⟨hget, hsource⟩ := Option.filter_eq_some_iff.1 hbefore
  exact ⟨before, hget, by simpa using hsource, heq.symm⟩

theorem contains_nodes_withoutNode {other : String} (h : room.nodes.contains other = true)
    (hne : other ≠ id) : (room.withoutNode id).nodes.contains other = true := by
  obtain ⟨node, hget⟩ := Table.contains_iff.1 h
  rw [Table.contains, get?_nodes_withoutNode, if_neg hne, hget]
  rfl

theorem WellFormed.withoutNode (h : room.WellFormed) (id : String) :
    (room.withoutNode id).WellFormed where
  source_mem hstream := by
    obtain ⟨before, hbefore, hsource, rfl⟩ := of_get?_streams_withoutNode hstream
    have hmem := h.source_mem hbefore
    exact contains_nodes_withoutNode hmem hsource
  target_mem hstream htarget := by
    obtain ⟨before, hbefore, -, rfl⟩ := of_get?_streams_withoutNode hstream
    obtain ⟨hmem, hne⟩ := Stream.mem_targets_withoutTarget.1 htarget
    exact contains_nodes_withoutNode (h.target_mem hbefore hmem) hne
  stream_wellFormed hstream := by
    obtain ⟨before, hbefore, -, rfl⟩ := of_get?_streams_withoutNode hstream
    exact (h.stream_wellFormed hbefore).withoutTarget id
  relayed_mem hnode hrelays := by
    obtain ⟨-, before, hbefore, rfl⟩ := of_get?_nodes_withoutNode hnode
    obtain ⟨hrelayed, hstays⟩ := (Node.relays_without _).1 hrelays
    obtain ⟨stream, hstream⟩ := Table.contains_iff.1 (h.relayed_mem hbefore hrelayed)
    rw [publishes, hstream] at hstays
    rw [Table.contains, get?_streams_withoutNode, hstream]
    simp_all
  role_of_relays hnode hrelays := by
    obtain ⟨-, before, hbefore, rfl⟩ := of_get?_nodes_withoutNode hnode
    have hrole := h.role_of_relays hbefore ((Node.relays_without _).1 hrelays).1
    exact hrole

theorem Agrees.withoutNode (h : room.Agrees) (id : String) : (room.withoutNode id).Agrees := by
  intro other node name stream hnode hstream
  obtain ⟨hne, nodeBefore, hnodeBefore, rfl⟩ := of_get?_nodes_withoutNode hnode
  obtain ⟨streamBefore, hstreamBefore, hsource, rfl⟩ := of_get?_streams_withoutNode hstream
  have hstays : room.publishes id name = false := by
    rw [publishes, hstreamBefore]
    simpa using hsource
  rw [Node.relays_without, Stream.mem_targets_withoutTarget, h hnodeBefore hstreamBefore]
  simp [hstays, hne]

/-! ## Changes of a node that leave its relays alone -/

theorem contains_nodes_modify {f : Node α → Node α} {other : String} :
    (room.nodes.modify id f).contains other = room.nodes.contains other := by
  rw [Table.contains, Table.contains, Table.get?_modify]
  split
  · exact Option.isSome_map
  · rfl

theorem of_get?_nodes_modify {f : Node α → Node α} {other : String} {after : Node α}
    (hrole : ∀ node, (f node).role = node.role)
    (hrelaying : ∀ node, (f node).relaying = node.relaying)
    (h : (room.nodes.modify id f).get? other = some after) :
    ∃ before, room.nodes.get? other = some before ∧ after.role = before.role ∧
      after.relaying = before.relaying := by
  rw [Table.get?_modify] at h
  split at h
  · obtain ⟨before, hbefore, rfl⟩ := Option.map_eq_some_iff.1 h
    exact ⟨before, hbefore, hrole before, hrelaying before⟩
  · exact ⟨after, h, rfl, rfl⟩

theorem WellFormed.modifyNode (h : room.WellFormed) {f : Node α → Node α}
    (hrole : ∀ node, (f node).role = node.role)
    (hrelaying : ∀ node, (f node).relaying = node.relaying) :
    WellFormed { room with nodes := room.nodes.modify id f } where
  source_mem hstream := by
    rw [contains_nodes_modify]
    exact h.source_mem hstream
  target_mem hstream htarget := by
    rw [contains_nodes_modify]
    exact h.target_mem hstream htarget
  stream_wellFormed hstream := h.stream_wellFormed hstream
  relayed_mem hnode hrelays := by
    obtain ⟨before, hbefore, -, heq⟩ := of_get?_nodes_modify hrole hrelaying hnode
    rw [Node.relays, heq] at hrelays
    exact h.relayed_mem hbefore hrelays
  role_of_relays hnode hrelays := by
    obtain ⟨before, hbefore, hsame, heq⟩ := of_get?_nodes_modify hrole hrelaying hnode
    rw [Node.relays, heq] at hrelays
    rw [hsame]
    exact h.role_of_relays hbefore hrelays

theorem Agrees.modifyNode (h : room.Agrees) {f : Node α → Node α}
    (hrole : ∀ node, (f node).role = node.role)
    (hrelaying : ∀ node, (f node).relaying = node.relaying) :
    Agrees { room with nodes := room.nodes.modify id f } := by
  intro other node name stream hnode hstream
  obtain ⟨before, hbefore, -, heq⟩ := of_get?_nodes_modify hrole hrelaying hnode
  rw [Node.relays, heq]
  exact h hbefore hstream

/-! ## New streams -/

/-- The room with a new stream, in place of the one that is there under the same identifier. -/
def withFresh (room : Room α) (id source : String) (media : MediaKind) : Room α :=
  { room with streams := room.streams.insert id { source, media } }

/-- A node of the room that does not publish the stream yet publishes it anew. -/
theorem addStream_of_fresh {source : String} (hsource : room.nodes.contains source = true)
    (hnew : room.publishes source id = false) (media : MediaKind) :
    room.addStream id source media = .ok ({ source, media }, room.withFresh id source media) := by
  rw [addStream, if_pos hsource]
  dsimp only
  split
  · rename_i old hold
    rw [publishes, hold] at hnew
    rw [if_neg (by simpa using hnew)]
    rfl
  · rfl

/-- A node that publishes the stream already changes nothing by publishing it again. -/
theorem addStream_of_publishes {source : String} (hsource : room.nodes.contains source = true)
    (hold : room.publishes source id = true) (media : MediaKind) :
    ∃ stream, room.addStream id source media = .ok (stream, room) := by
  obtain ⟨stream, hstream, hown⟩ := publishes_iff.1 hold
  refine ⟨stream, ?_⟩
  rw [addStream, if_pos hsource, hstream]
  exact if_pos hown

theorem addStream_of_absent {source : String} (hsource : room.nodes.contains source = false)
    (media : MediaKind) : room.addStream id source media = .error (.nodeNotFound source) := by
  rw [addStream, hsource]
  rfl

theorem get?_streams_withFresh {source : String} {media : MediaKind} (name : String) :
    (room.withFresh id source media).streams.get? name =
      if name = id then some { source, media } else room.streams.get? name :=
  Table.get?_insert ..

theorem WellFormed.withFresh (h : room.WellFormed) {source : String} {media : MediaKind}
    (hsource : room.nodes.contains source = true) :
    (room.withFresh id source media).WellFormed where
  source_mem hstream := by
    rw [get?_streams_withFresh] at hstream
    split at hstream
    · rw [← Option.some.inj hstream]
      exact hsource
    · exact h.source_mem hstream
  target_mem hstream htarget := by
    rw [get?_streams_withFresh] at hstream
    split at hstream
    · rw [← Option.some.inj hstream] at htarget
      exact absurd htarget List.not_mem_nil
    · exact h.target_mem hstream htarget
  stream_wellFormed hstream := by
    rw [get?_streams_withFresh] at hstream
    split at hstream
    · rw [← Option.some.inj hstream]
      exact Stream.wellFormed_fresh source media
    · exact h.stream_wellFormed hstream
  relayed_mem hnode hrelays := by
    have hbefore := h.relayed_mem hnode hrelays
    rw [Table.contains, get?_streams_withFresh]
    split
    · rfl
    · exact hbefore
  role_of_relays hnode hrelays := h.role_of_relays hnode hrelays

/-- A new stream keeps the agreement exactly when it does not take the place of one that has
targets. -/
theorem agrees_withFresh_iff (hwf : room.WellFormed) (hagrees : room.Agrees) {source : String}
    {media : MediaKind} :
    (room.withFresh id source media).Agrees ↔
      ∀ old, room.streams.get? id = some old → old.targets = [] := by
  have hself : (room.withFresh id source media).streams.get? id = some { source, media } := by
    rw [get?_streams_withFresh, if_pos rfl]
  constructor
  · intro hafter old hold
    refine List.eq_nil_iff_forall_not_mem.2 fun target htarget => ?_
    obtain ⟨node, hnode⟩ := Table.contains_iff.1 (hwf.target_mem hold htarget)
    have hrelays := (hagrees hnode hold).2 htarget
    exact List.not_mem_nil ((hafter hnode hself).1 hrelays)
  · intro hold other node name stream hnode hstream
    rw [get?_streams_withFresh] at hstream
    split at hstream
    · rename_i heq
      subst heq
      rw [← Option.some.inj hstream]
      refine ⟨fun hrelays => ?_, fun htarget => absurd htarget List.not_mem_nil⟩
      obtain ⟨old, hget⟩ := Table.contains_iff.1 (hwf.relayed_mem hnode hrelays)
      have htarget := (hagrees hnode hget).1 hrelays
      rw [hold old hget] at htarget
      exact htarget
    · exact hagrees hnode hstream

/-! ## Decisions -/

theorem contains_nodes_assigned {kept : Assignment} {other : String}
    (h : room.nodes.contains other = true) :
    (room.assigned id node kept).nodes.contains other = true := by
  rw [Table.contains, get?_nodes_assigned]
  split
  · rfl
  · exact h

/-- An assignment of streams that the node may relay keeps a room well-formed, if it makes a node
with streams a hybrid. -/
theorem WellFormed.assigned (h : room.WellFormed) (hnode : room.nodes.get? id = some node)
    {kept : Assignment} (hmay : ∀ name ∈ kept.streamIds, room.mayRelay id name = true)
    (hrole : kept.streams ≠ [] → kept.role = .hybrid) :
    (room.assigned id node kept).WellFormed where
  source_mem hstream := by
    rw [get?_streams_assigned] at hstream
    obtain ⟨before, hbefore, rfl⟩ := Option.map_eq_some_iff.1 hstream
    refine contains_nodes_assigned ?_
    split
    · rw [Stream.source_withTarget]
      exact h.source_mem hbefore
    · rw [Stream.source_withoutTarget]
      exact h.source_mem hbefore
  target_mem hstream htarget := by
    rw [get?_streams_assigned] at hstream
    obtain ⟨before, hbefore, rfl⟩ := Option.map_eq_some_iff.1 hstream
    refine contains_nodes_assigned ?_
    split at htarget
    · rcases Stream.mem_targets_withTarget.1 htarget with hmem | rfl
      · exact h.target_mem hbefore hmem
      · exact Table.contains_iff.2 ⟨node, hnode⟩
    · exact h.target_mem hbefore (Stream.mem_targets_withoutTarget.1 htarget).1
  stream_wellFormed {name after} hstream := by
    rw [get?_streams_assigned] at hstream
    obtain ⟨before, hbefore, rfl⟩ := Option.map_eq_some_iff.1 hstream
    split
    · rename_i hkept
      refine (h.stream_wellFormed hbefore).withTarget ?_
      have hforeign := hmay name hkept
      rw [mayRelay, hbefore] at hforeign
      simpa using hforeign
    · exact (h.stream_wellFormed hbefore).withoutTarget id
  relayed_mem {other after name} hafter hrelays := by
    rw [Table.contains, get?_streams_assigned, Option.isSome_map]
    rw [get?_nodes_assigned] at hafter
    split at hafter
    · rw [← Option.some.inj hafter, Node.relays_assign] at hrelays
      have hstream := hmay name hrelays
      rw [mayRelay] at hstream
      cases hget : room.streams.get? name with
      | none => simp [hget] at hstream
      | some stream => rfl
    · exact h.relayed_mem hafter hrelays
  role_of_relays {other after name} hafter hrelays := by
    rw [get?_nodes_assigned] at hafter
    split at hafter
    · rw [← Option.some.inj hafter, Node.relays_assign] at hrelays
      rw [← Option.some.inj hafter]
      refine hrole fun hnil => ?_
      rw [Assignment.streamIds, hnil] at hrelays
      exact List.not_mem_nil hrelays
    · exact h.role_of_relays hafter hrelays

/-- The two copies of the relation agree about one node. -/
def AgreesAbout (room : Room α) (id : String) (node : Node α) : Prop :=
  ∀ ⦃name stream⦄, room.streams.get? name = some stream →
    (node.relays name = true ↔ id ∈ stream.targets)

/-- An assignment makes the two copies agree about its node, whatever they said before. -/
theorem agreesAbout_assigned (kept : Assignment) :
    (room.assigned id node kept).AgreesAbout id (node.assign kept.role kept.streamIds) := by
  intro name stream hstream
  rw [get?_streams_assigned] at hstream
  obtain ⟨before, -, rfl⟩ := Option.map_eq_some_iff.1 hstream
  rw [Node.relays_assign]
  by_cases hkept : name ∈ kept.streamIds
  · simp [hkept]
  · simp [hkept]

/-- An assignment leaves what the targets say about the other nodes. -/
theorem AgreesAbout.assigned {other : String} {otherNode : Node α}
    (h : room.AgreesAbout other otherNode) (hne : other ≠ id) (kept : Assignment) :
    (room.assigned id node kept).AgreesAbout other otherNode := by
  intro name stream hstream
  rw [get?_streams_assigned] at hstream
  obtain ⟨before, hbefore, rfl⟩ := Option.map_eq_some_iff.1 hstream
  rw [h hbefore]
  by_cases hkept : name ∈ kept.streamIds
  · simp [hkept, hne]
  · simp [hkept, hne]

theorem Agrees.assigned (h : room.Agrees) (kept : Assignment) :
    (room.assigned id node kept).Agrees := by
  intro other after name stream hafter hstream
  rw [get?_nodes_assigned] at hafter
  split at hafter
  · rename_i heq
    rw [← Option.some.inj hafter, heq]
    exact agreesAbout_assigned kept hstream
  · rename_i hne
    have habout : room.AgreesAbout other after := fun _ _ => h hafter
    exact habout.assigned hne kept hstream

variable [Scalar α] {policy : Policy α}

theorem WellFormed.decided (h : room.WellFormed) (hnode : room.nodes.get? id = some node) :
    (room.decided policy id node).WellFormed := by
  refine h.assigned hnode (fun name hname => ?_) Selection.choose_role_eq_hybrid.2
  obtain ⟨info, hinfo, rfl⟩ := List.mem_map.1 hname
  exact mayRelay_of_mem_decision hinfo

end Room

end RelayMesh

import RelayMesh.Proofs.Table
import RelayMesh.Room.Basic

/-!
# What one decision does to a room

`Room.evaluate` chooses an assignment for a node and carries it out.  This
file says once what that does, so that later proofs need neither
`Selection.choose` nor `Room.apply`.

There are three groups.

* The choice.  `Selection.choose_isForwarding` says that exactly the admitted
  candidates get a forwarding role, `Selection.choose_role_eq_hybrid` ties the
  role to the streams, and `Selection.mem_choose_streams` bounds the streams.
* Carrying out.  `Room.assigned` is the room after an assignment that needs no
  restriction, with one lemma for its nodes and one for its streams.
* The decision.  `Room.evaluate_of_get?` is the specification of
  `Room.evaluate`: a choice is never restricted, so the node keeps exactly
  what was chosen.
-/

namespace RelayMesh

/-! ## The choice -/

namespace Selection

variable {α : Type} {policy : Policy α} {candidate : NodeView α} {nodes : List (NodeView α)}
  {streams : List StreamInfo} {info : StreamInfo}

theorem sortedTwice_perm (covered : String → Nat) (offered : List StreamInfo) :
    (sortedTwice covered offered).Perm offered :=
  (List.mergeSort_perm _ _).trans (List.mergeSort_perm offered _)

theorem mem_streamsFor (h : info ∈ streamsFor policy candidate nodes streams) :
    info ∈ streams ∧ info.source ≠ candidate.id := by
  have hforeign := (sortedTwice_perm _ _).mem_iff.1 (List.mem_of_mem_take h)
  simpa using hforeign

theorem nodup_streamsFor (h : streams.Nodup) :
    (streamsFor policy candidate nodes streams).Nodup := by
  refine List.Nodup.sublist (List.take_sublist ..) ?_
  exact (sortedTwice_perm ..).nodup_iff.2 (h.filter _)

theorem length_streamsFor_le :
    (streamsFor policy candidate nodes streams).length ≤ policy.streamLimit candidate := by
  rw [streamsFor, List.length_take]
  exact Nat.min_le_left ..

variable [Scalar α]

theorem choose_of_admits (h : admits policy nodes candidate = true) :
    choose policy candidate nodes streams =
      let streams := streamsFor policy candidate nodes streams
      { role := if streams.isEmpty then .forwarder else .hybrid, streams } :=
  if_pos h

theorem choose_of_not_admits (h : admits policy nodes candidate = false) :
    choose policy candidate nodes streams = .receiver :=
  if_neg (Bool.eq_false_iff.1 h)

/-- A chosen stream is one of the published streams and not the candidate's own. -/
theorem mem_choose_streams (h : info ∈ (choose policy candidate nodes streams).streams) :
    info ∈ streams ∧ info.source ≠ candidate.id := by
  rw [choose] at h
  split at h
  · exact mem_streamsFor h
  · simp [Assignment.receiver] at h

/-- No stream is chosen twice. -/
theorem nodup_choose_streams (h : streams.Nodup) :
    (choose policy candidate nodes streams).streams.Nodup := by
  rw [choose]
  split
  · exact nodup_streamsFor h
  · exact List.nodup_nil

theorem length_choose_streams_le :
    (choose policy candidate nodes streams).streams.length ≤ policy.streamLimit candidate := by
  rw [choose]
  split
  · exact length_streamsFor_le
  · exact Nat.zero_le _

/-- Exactly the admitted candidates get a forwarding role. -/
theorem choose_isForwarding :
    (choose policy candidate nodes streams).role.isForwarding = admits policy nodes candidate := by
  rw [choose]
  split
  · rename_i hadmits
    rw [hadmits]
    dsimp only
    split <;> rfl
  · rename_i hrejects
    simp [hrejects, Assignment.receiver, Role.isForwarding]

/-- A candidate relays streams exactly when it becomes a hybrid. -/
theorem choose_role_eq_hybrid :
    (choose policy candidate nodes streams).role = .hybrid ↔
      (choose policy candidate nodes streams).streams ≠ [] := by
  rw [choose]
  split
  · cases hstreams : streamsFor policy candidate nodes streams <;> simp
  · simp [Assignment.receiver]

end Selection

/-! ## Streams that gain or lose a target -/

namespace Stream

variable {stream : Stream} {node other : String}

@[simp] theorem source_withTarget : (stream.withTarget node).source = stream.source := by
  rw [withTarget]
  split <;> rfl

@[simp] theorem source_withoutTarget : (stream.withoutTarget node).source = stream.source := rfl

@[simp] theorem info_withTarget (id : String) :
    (stream.withTarget node).info id = stream.info id := by
  rw [withTarget]
  split <;> rfl

@[simp] theorem info_withoutTarget (id : String) :
    (stream.withoutTarget node).info id = stream.info id := rfl

@[simp] theorem mem_targets_withTarget :
    other ∈ (stream.withTarget node).targets ↔ other ∈ stream.targets ∨ other = node := by
  rw [withTarget]
  split
  · rename_i hmem
    constructor
    · exact Or.inl
    · rintro (h | rfl)
      · exact h
      · exact hmem
  · simp

@[simp] theorem mem_targets_withoutTarget :
    other ∈ (stream.withoutTarget node).targets ↔ other ∈ stream.targets ∧ other ≠ node := by
  simp [withoutTarget]

end Stream

namespace Room

variable {α : Type} {room : Room α} {policy : Policy α} {id other : String} {node : Node α}

/-! ## Carrying out an assignment -/

/-- The room in which a node has taken an assignment, and is a target of exactly the streams that
the assignment lists. -/
def assigned (room : Room α) (id : String) (node : Node α) (kept : Assignment) : Room α where
  nodes := room.nodes.insert id (node.assign kept.role kept.streamIds)
  streams := room.streams.map (fun stream s =>
    if stream ∈ kept.streamIds then s.withTarget id else s.withoutTarget id)

theorem get?_nodes_assigned (kept : Assignment) (other : String) :
    (room.assigned id node kept).nodes.get? other =
      if other = id then some (node.assign kept.role kept.streamIds) else room.nodes.get? other :=
  Table.get?_insert ..

theorem get?_streams_assigned (kept : Assignment) (stream : String) :
    (room.assigned id node kept).streams.get? stream =
      (room.streams.get? stream).map (fun s =>
        if stream ∈ kept.streamIds then s.withTarget id else s.withoutTarget id) :=
  Table.get?_map ..

/-- An assignment neither adds nor removes a node. -/
theorem keys_nodes_assigned (h : room.nodes.get? id = some node) (kept : Assignment) :
    (room.assigned id node kept).nodes.keys = room.nodes.keys :=
  Table.keys_insert_of_contains (Table.contains_iff.2 ⟨node, h⟩) _

/-- An assignment changes neither the source nor the media of a stream. -/
theorem streamInfos_assigned (kept : Assignment) :
    (room.assigned id node kept).streamInfos = room.streamInfos := by
  rw [streamInfos, streamInfos, assigned, Table.map, List.map_map]
  refine List.map_congr_left fun entry _ => ?_
  dsimp only [Function.comp]
  split
  · exact Stream.info_withTarget _
  · exact Stream.info_withoutTarget _

theorem mem_streamInfos {info : StreamInfo} :
    info ∈ room.streamInfos ↔
      ∃ stream, room.streams.get? info.stream = some stream ∧ stream.info info.stream = info := by
  rw [streamInfos, List.mem_map]
  constructor
  · rintro ⟨⟨id, stream⟩, hmem, rfl⟩
    exact ⟨stream, (Table.mem_entries_iff ..).1 hmem, rfl⟩
  · rintro ⟨stream, hget, hinfo⟩
    exact ⟨(info.stream, stream), (Table.mem_entries_iff ..).2 hget, hinfo⟩

/-- The published streams have distinct identifiers. -/
theorem pairwise_streamInfos (room : Room α) :
    room.streamInfos.Pairwise (fun a b => a.stream ≠ b.stream) := by
  apply List.pairwise_map.2
  apply room.streams.sorted.imp
  intro a b hlt heq
  have hid : a.1 = b.1 := heq
  rw [hid] at hlt
  exact String.lt_irrefl _ hlt

theorem nodup_streamInfos (room : Room α) : room.streamInfos.Nodup :=
  room.pairwise_streamInfos.imp fun hne heq => hne (congrArg StreamInfo.stream heq)

/-- An assignment is kept as it is if the node may relay all its streams and a hybrid has some. -/
theorem restrict_eq_self {assignment : Assignment}
    (hmay : ∀ info ∈ assignment.streams, room.mayRelay id info.stream = true)
    (hrole : assignment.role = .hybrid → assignment.streams ≠ []) :
    room.restrict id assignment = assignment := by
  have hstreams : assignment.streams.filter (fun info => room.mayRelay id info.stream) =
      assignment.streams := List.filter_eq_self.2 hmay
  have hready : ¬(assignment.role = .hybrid ∧ assignment.streams.isEmpty = true) := by
    rintro ⟨hhybrid, hempty⟩
    exact hrole hhybrid (List.isEmpty_iff.1 hempty)
  rw [restrict, hstreams, if_neg hready]

/-- The specification of `Room.apply` on a node of the room. -/
theorem apply_of_get? (h : room.nodes.get? id = some node) (assignment : Assignment) :
    room.apply id assignment = .ok
      { kept := room.restrict id assignment
        changed := node.differsFrom (room.restrict id assignment).role
          (room.restrict id assignment).streamIds
        room := room.assigned id node (room.restrict id assignment) } := by
  rw [apply, h]
  rfl

/-! ## The decision -/

variable [Scalar α]

/-- What is decided about a node of the room. -/
def decision (room : Room α) (policy : Policy α) (id : String) (node : Node α) : Assignment :=
  Selection.choose policy (node.view id "") (room.nodeViews "") room.streamInfos

/-- A decision reads nothing but the nodes and the published streams. -/
theorem decision_congr {after : Room α} (hnodes : after.nodes = room.nodes)
    (hinfos : after.streamInfos = room.streamInfos) :
    after.decision policy id node = room.decision policy id node := by
  rw [decision, decision, nodeViews, nodeViews, hnodes, hinfos]

/-- The room after the decision about a node. -/
def decided (room : Room α) (policy : Policy α) (id : String) (node : Node α) : Room α :=
  room.assigned id node (room.decision policy id node)

theorem get?_decided (policy : Policy α) (id : String) (node : Node α) (other : String) :
    (room.decided policy id node).nodes.get? other =
      if other = id then
        some (node.assign (room.decision policy id node).role
          (room.decision policy id node).streamIds)
      else room.nodes.get? other :=
  get?_nodes_assigned ..

theorem get?_decided_self (policy : Policy α) (id : String) (node : Node α) :
    (room.decided policy id node).nodes.get? id =
      some (node.assign (room.decision policy id node).role
        (room.decision policy id node).streamIds) := by
  rw [get?_decided, if_pos rfl]

theorem get?_decided_of_ne (h : other ≠ id) :
    (room.decided policy id node).nodes.get? other = room.nodes.get? other := by
  rw [get?_decided, if_neg h]

theorem streamInfos_decided :
    (room.decided policy id node).streamInfos = room.streamInfos :=
  streamInfos_assigned _

/-- An assignment lists streams of the room, each once, and none that the node publishes. -/
structure Offers (room : Room α) (id : String) (assignment : Assignment) : Prop where
  nodup : assignment.streams.Nodup
  mem : ∀ info ∈ assignment.streams, info ∈ room.streamInfos
  foreign : ∀ info ∈ assignment.streams, info.source ≠ id

theorem offers_decision (room : Room α) (policy : Policy α) (id : String) (node : Node α) :
    room.Offers id (room.decision policy id node) where
  nodup := Selection.nodup_choose_streams room.nodup_streamInfos
  mem _ h := (Selection.mem_choose_streams h).1
  foreign _ h := (Selection.mem_choose_streams h).2

theorem mayRelay_of_mem_decision {info : StreamInfo}
    (h : info ∈ (room.decision policy id node).streams) :
    room.mayRelay id info.stream = true := by
  have hoffers := room.offers_decision policy id node
  have hsource := hoffers.foreign info h
  obtain ⟨stream, hget, hinfo⟩ := mem_streamInfos.1 (hoffers.mem info h)
  have hforeign : stream.source ≠ id := by
    rw [← hinfo] at hsource
    exact hsource
  simp [mayRelay, hget, hforeign]

/-- A decision is kept as it is. -/
theorem restrict_decision :
    room.restrict id (room.decision policy id node) = room.decision policy id node :=
  restrict_eq_self (fun _ h => mayRelay_of_mem_decision h) Selection.choose_role_eq_hybrid.1

/-- The specification of `Room.evaluate` on a node of the room. -/
theorem evaluate_of_get? (h : room.nodes.get? id = some node) :
    room.evaluate policy id = .ok
      { kept := room.decision policy id node
        changed := node.differsFrom (room.decision policy id node).role
          (room.decision policy id node).streamIds
        room := room.decided policy id node } := by
  have happly := apply_of_get? h (room.decision policy id node)
  rw [restrict_decision] at happly
  rw [evaluate, h]
  exact happly

theorem evaluate_of_get?_eq_none (h : room.nodes.get? id = none) :
    room.evaluate policy id = .error (.nodeNotFound id) := by
  rw [evaluate, h]

end Room

end RelayMesh

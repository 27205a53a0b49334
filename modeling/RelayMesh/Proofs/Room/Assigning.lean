import RelayMesh.Proofs.Room.Relation

/-!
# What it takes to carry out an assignment

An assignment may be stale when it is carried out: its streams may have gone,
or the node may publish them by now, and one stream may stand in it twice.  It
is carried out all the same, for whatever of it still makes sense.

* `Stream.Retargeted` says what happens to a stream: one node becomes a target
  of it or ceases to be one, and nothing else changes.
* `restrict_assigned` and `assigned_assigned` say that what was kept of an
  assignment is kept whole when it is carried out again, and that this changes
  nothing.
* `apply_carries_out` is the result: `Room.apply` in full, for any room and
  any assignment.
-/

namespace RelayMesh

/-! ## One target of a stream -/

namespace Stream

/-- A stream before and after one node was made a target of it, or none.  The other targets and
their order are the same, and so are the source, the media and the buffer. -/
structure Retargeted (node : String) (relayed : Prop) (before after : Stream) : Prop where
  mem_iff : node ∈ after.targets ↔ relayed
  others : after.targets.filter (· ≠ node) = before.targets.filter (· ≠ node)
  /-- A target that stays keeps its place. -/
  stays : node ∈ before.targets → relayed → after.targets = before.targets
  source : after.source = before.source
  media : after.media = before.media
  buffer : after.buffer = before.buffer

variable {stream : Stream} {node : String}

theorem withTarget_of_mem (h : node ∈ stream.targets) : stream.withTarget node = stream :=
  if_pos h

theorem withTarget_withTarget :
    (stream.withTarget node).withTarget node = stream.withTarget node :=
  withTarget_of_mem (mem_targets_withTarget.2 (.inr rfl))

theorem withoutTarget_withoutTarget :
    (stream.withoutTarget node).withoutTarget node = stream.withoutTarget node := by
  simp [withoutTarget]

theorem retargeted_withTarget {relayed : Prop} (h : relayed) :
    Retargeted node relayed stream (stream.withTarget node) := by
  by_cases hmem : node ∈ stream.targets
  · rw [withTarget_of_mem hmem]
    exact ⟨iff_of_true hmem h, rfl, fun _ _ => rfl, rfl, rfl, rfl⟩
  · rw [withTarget, if_neg hmem]
    refine ⟨iff_of_true (by simp) h, ?_, fun hstays => absurd hstays hmem, rfl, rfl, rfl⟩
    simp [List.filter_append]

theorem retargeted_withoutTarget {relayed : Prop} (h : ¬relayed) :
    Retargeted node relayed stream (stream.withoutTarget node) where
  mem_iff := iff_of_false (fun hmem => (mem_targets_withoutTarget.1 hmem).2 rfl) h
  others := by simp [withoutTarget]
  stays _ hrelayed := absurd hrelayed h
  source := rfl
  media := rfl
  buffer := rfl

end Stream

namespace Node

variable {α : Type} (node : Node α) (role : Role) (streams : List String)

theorem not_differsFrom_assign :
    (node.assign role streams).differsFrom role streams = false := by
  simp [differsFrom, assign]

/-- An assignment changes a node if the node has another role or other streams afterwards. -/
theorem differsFrom_iff : node.differsFrom role streams = true ↔
    (node.assign role streams).role ≠ node.role ∨
      (node.assign role streams).relaying ≠ node.relaying := by
  rw [differsFrom, Bool.or_eq_true, decide_eq_true_iff, decide_eq_true_iff]
  exact or_congr ne_comm ne_comm

end Node

namespace Room

variable {α : Type} {room : Room α} {id : String} {node : Node α}

/-! ## Carrying out again what was kept -/

/-- What the node may relay does not depend on who relays what. -/
theorem mayRelay_assigned (kept : Assignment) (other stream : String) :
    (room.assigned id node kept).mayRelay other stream = room.mayRelay other stream := by
  rw [mayRelay, mayRelay, get?_streams_assigned, Option.any_map]
  refine congrArg (fun test => (room.streams.get? stream).any test) (funext fun s => ?_)
  split
  · rw [Stream.source_withTarget]
  · rw [Stream.source_withoutTarget]

theorem mayRelay_of_mem_restrict {assignment : Assignment} {info : StreamInfo}
    (h : info ∈ (room.restrict id assignment).streams) :
    room.mayRelay id info.stream = true :=
  (List.mem_filter.1 h).2

/-- A hybrid of which no stream is kept only stands ready. -/
theorem streams_ne_nil_of_restrict {assignment : Assignment}
    (h : (room.restrict id assignment).role = .hybrid) :
    (room.restrict id assignment).streams ≠ [] := by
  intro hnil
  have hempty : ((assignment.streams.filter (fun info => room.mayRelay id info.stream)).isEmpty)
      = true := List.isEmpty_iff.2 hnil
  rw [restrict] at h
  dsimp only at h
  split at h
  · cases h
  · rename_i hready
    exact hready ⟨h, hempty⟩

/-- What was kept of an assignment is kept whole the next time. -/
theorem restrict_assigned (assignment : Assignment) :
    (room.assigned id node (room.restrict id assignment)).restrict id
      (room.restrict id assignment) = room.restrict id assignment := by
  refine restrict_eq_self (fun info h => ?_) streams_ne_nil_of_restrict
  rw [mayRelay_assigned]
  exact mayRelay_of_mem_restrict h

/-- An assignment that is carried out a second time changes nothing. -/
theorem assigned_assigned (kept : Assignment) :
    (room.assigned id node kept).assigned id (node.assign kept.role kept.streamIds) kept =
      room.assigned id node kept := by
  have hself : (room.assigned id node kept).nodes.get? id =
      some (node.assign kept.role kept.streamIds) := by
    rw [get?_nodes_assigned, if_pos rfl]
  have hnodes : ((room.assigned id node kept).assigned id
      (node.assign kept.role kept.streamIds) kept).nodes = (room.assigned id node kept).nodes :=
    Table.insert_of_get? hself
  have hstreams : ((room.assigned id node kept).assigned id
      (node.assign kept.role kept.streamIds) kept).streams =
        (room.assigned id node kept).streams := by
    refine Table.ext_get? fun name => ?_
    rw [get?_streams_assigned, get?_streams_assigned, Option.map_map]
    refine Option.map_congr fun stream _ => ?_
    dsimp only [Function.comp]
    split
    · exact Stream.withTarget_withTarget
    · exact Stream.withoutTarget_withoutTarget
  rw [Room.mk.injEq]
  exact ⟨hnodes, hstreams⟩

/-! ## Carrying out -/

/-- An assignment was carried out for a node.  `after` is the node afterwards. -/
structure CarriedOut (room : Room α) (id : String) (node : Node α) (given : Assignment)
    (applied : Applied α) (after : Node α) : Prop where
  /-- Of the given streams those are kept, in their order, that are in the room and not the
  node's own. -/
  streams : applied.kept.streams = given.streams.filter (fun info =>
    (room.streams.get? info.stream).any (fun stream => stream.source ≠ id))
  role : applied.kept.role =
    if given.role = .hybrid ∧ applied.kept.streams = [] then .forwarder else given.role
  get?_self : applied.room.nodes.get? id = some after
  role_after : after.role = applied.kept.role
  relays_iff : ∀ stream, after.relays stream = true ↔ stream ∈ applied.kept.streamIds
  /-- Nothing but the role and the relayed streams of the node may change. -/
  same_node : after = { node with role := after.role, relaying := after.relaying }
  changed_iff : applied.changed = true ↔
    after.role ≠ node.role ∨ after.relaying ≠ node.relaying
  others : ∀ other, other ≠ id → applied.room.nodes.get? other = room.nodes.get? other
  retargeted : ∀ stream, Option.Rel
    (Stream.Retargeted id (stream ∈ applied.kept.streamIds))
    (room.streams.get? stream) (applied.room.streams.get? stream)
  /-- What was kept is kept when it is carried out again, which changes nothing. -/
  again : applied.room.apply id applied.kept = .ok { applied with changed := false }

theorem retargeted_assigned (kept : Assignment) (stream : String) :
    Option.Rel (Stream.Retargeted id (stream ∈ kept.streamIds)) (room.streams.get? stream)
      ((room.assigned id node kept).streams.get? stream) := by
  rw [get?_streams_assigned]
  cases room.streams.get? stream with
  | none => exact .none
  | some s =>
    refine .some ?_
    split
    · rename_i hkept
      exact Stream.retargeted_withTarget hkept
    · rename_i hdropped
      exact Stream.retargeted_withoutTarget hdropped

theorem apply_assigned (assignment : Assignment) :
    (room.assigned id node (room.restrict id assignment)).apply id
        (room.restrict id assignment) =
      .ok
        { kept := room.restrict id assignment
          changed := false
          room := room.assigned id node (room.restrict id assignment) } := by
  have hself : (room.assigned id node (room.restrict id assignment)).nodes.get? id =
      some (node.assign (room.restrict id assignment).role
        (room.restrict id assignment).streamIds) := by
    rw [get?_nodes_assigned, if_pos rfl]
  rw [apply_of_get? hself, restrict_assigned, assigned_assigned, Node.not_differsFrom_assign]

/-- Carrying out an assignment, however stale.  It fails only where the node is not in the room.
Otherwise the node takes the role and the streams that are kept, it is a target of exactly these
streams, whatever the room looked like before, and nothing else changes; the outcome says truly
whether the node has changed; and carrying out again what was kept changes nothing. -/
theorem apply_carries_out (room : Room α) (id : String) (given : Assignment) :
    match room.nodes.get? id with
    | none => room.apply id given = .error (.nodeNotFound id)
    | some node => ∃ applied after, room.apply id given = .ok applied ∧
        room.CarriedOut id node given applied after := by
  split
  · rename_i hnone
    rw [apply, hnone]
  · rename_i node hnode
    refine ⟨_, node.assign (room.restrict id given).role (room.restrict id given).streamIds,
      apply_of_get? hnode given, ?_⟩
    constructor
    case get?_self => exact (get?_nodes_assigned _ id).trans (if_pos rfl)
    case streams => rfl
    case role => simp [restrict]
    case role_after => rfl
    case relays_iff => exact fun stream => Node.relays_assign _ _
    case same_node => rfl
    case changed_iff => exact node.differsFrom_iff _ _
    case others => exact fun other hne => (get?_nodes_assigned _ other).trans (if_neg hne)
    case retargeted => exact retargeted_assigned _
    case again => exact apply_assigned given

end Room

end RelayMesh

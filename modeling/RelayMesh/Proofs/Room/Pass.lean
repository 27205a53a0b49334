import RelayMesh.Proofs.Room.Decision

/-!
# A pass over the nodes of a room

`Room.rebalance` decides about every node in turn, each time from the room as
the decisions before left it.  This file follows one node through the pass.

* `evaluateAll_cons` is one step of the pass, and `evaluateAll_induction` is
  the induction that every later proof about a pass uses: its invariant may
  speak of the nodes that are still to be decided about.
* `keys_rebalance` and `streamInfos_rebalance` say what a pass never touches.
* `rebalance_get?` says what it leaves of a node, and when it reports the
  node as changed.  `forall_get?_rebalance` is for what a node owes to its own
  decision.
* `Room.AtRest` says that every node has what would be decided about it.  These
  are the rooms over which a pass reports no changes (`rebalance_eq_nil_iff`).
-/

namespace RelayMesh

namespace Node

variable {α : Type} {node : Node α} {role : Role} {streams : List String}

/-- An assignment that does not differ from what the node has leaves the node as it is. -/
theorem assign_of_not_differsFrom (h : node.differsFrom role streams = false) :
    node.assign role streams = node := by
  simp only [differsFrom, Bool.or_eq_false_iff, decide_eq_false_iff_not, not_not] at h
  rw [assign, ← h.1, ← h.2]

end Node

namespace Room

variable {α : Type} [Scalar α] {room : Room α} {policy : Policy α} {id : String} {node : Node α}
  {ids rest : List String}

/-! ## The steps of a pass -/

theorem evaluateAll_cons (h : room.nodes.get? id = some node) :
    evaluateAll policy (id :: rest) room =
      (if node.differsFrom (room.decision policy id node).role
          (room.decision policy id node).streamIds then
        (id, room.decision policy id node) ::
          (evaluateAll policy rest (room.decided policy id node)).1
      else (evaluateAll policy rest (room.decided policy id node)).1,
        (evaluateAll policy rest (room.decided policy id node)).2) := by
  rw [evaluateAll, evaluate_of_get? h]

theorem evaluateAll_cons_of_none (h : room.nodes.get? id = none) :
    evaluateAll policy (id :: rest) room = evaluateAll policy rest room := by
  rw [evaluateAll, evaluate_of_get?_eq_none h]

/-- What every decision keeps, the pass keeps.  The invariant also sees the nodes that are still to
be decided about. -/
theorem evaluateAll_induction {P : List String → Room α → Prop}
    (hdecided : ∀ id rest room node, room.nodes.get? id = some node →
      P (id :: rest) room → P rest (room.decided policy id node))
    (hskipped : ∀ id rest room, room.nodes.get? id = none → P (id :: rest) room → P rest room)
    (hstart : P ids room) : P [] (evaluateAll policy ids room).2 := by
  induction ids generalizing room with
  | nil => exact hstart
  | cons id rest ih =>
    cases hget : room.nodes.get? id with
    | none =>
      rw [evaluateAll_cons_of_none hget]
      exact ih (hskipped id rest room hget hstart)
    | some node =>
      rw [evaluateAll_cons hget]
      exact ih (hdecided id rest room node hget hstart)

omit [Scalar α] in
/-- An assignment that does not differ from what its node has leaves the nodes as they are. -/
theorem nodes_assigned_of_not_differsFrom (hget : room.nodes.get? id = some node)
    {kept : Assignment} (hsame : node.differsFrom kept.role kept.streamIds = false) :
    (room.assigned id node kept).nodes = room.nodes := by
  rw [assigned, Node.assign_of_not_differsFrom hsame]
  exact Table.insert_of_get? hget

/-! ## What a pass never touches -/

theorem keys_evaluateAll : (evaluateAll policy ids room).2.nodes.keys = room.nodes.keys := by
  refine evaluateAll_induction (P := fun _ r => r.nodes.keys = room.nodes.keys) ?_ ?_ rfl
  · intro id _ r node hget hkeys
    exact (keys_nodes_assigned hget _).trans hkeys
  · intro _ _ _ _ hkeys
    exact hkeys

theorem streamInfos_evaluateAll :
    (evaluateAll policy ids room).2.streamInfos = room.streamInfos := by
  refine evaluateAll_induction (P := fun _ r => r.streamInfos = room.streamInfos) ?_ ?_ rfl
  · intro _ _ _ _ _ hinfos
    exact streamInfos_decided.trans hinfos
  · intro _ _ _ _ hinfos
    exact hinfos

/-- A pass neither adds nor removes a node. -/
theorem keys_rebalance : (room.rebalance policy).2.nodes.keys = room.nodes.keys :=
  keys_evaluateAll

/-- A pass changes neither the source nor the media of a stream. -/
theorem streamInfos_rebalance : (room.rebalance policy).2.streamInfos = room.streamInfos :=
  streamInfos_evaluateAll

/-! ## One node in a pass -/

theorem get?_evaluateAll_of_not_mem (h : id ∉ ids) :
    (evaluateAll policy ids room).2.nodes.get? id = room.nodes.get? id := by
  refine (evaluateAll_induction
    (P := fun remaining r => id ∉ remaining ∧ r.nodes.get? id = room.nodes.get? id)
    ?_ ?_ ⟨h, rfl⟩).2
  · rintro other rest r node _ ⟨hnot, hget⟩
    rw [List.mem_cons, not_or] at hnot
    refine ⟨hnot.2, ?_⟩
    rw [get?_decided_of_ne hnot.1, hget]
  · rintro other rest r _ ⟨hnot, hget⟩
    rw [List.mem_cons, not_or] at hnot
    exact ⟨hnot.2, hget⟩

/-- A pass reports nodes in the order in which it comes to them, and none of them twice. -/
theorem sublist_evaluateAll :
    ((evaluateAll policy ids room).1.map Prod.fst).Sublist ids := by
  induction ids generalizing room with
  | nil => exact List.Sublist.slnil
  | cons id rest ih =>
    cases hget : room.nodes.get? id with
    | none =>
      rw [evaluateAll_cons_of_none hget]
      exact ih.cons id
    | some node =>
      rw [evaluateAll_cons hget]
      dsimp only
      split
      · exact ih.cons_cons id
      · exact ih.cons id

theorem mem_of_mem_evaluateAll {assignment : Assignment}
    (h : (id, assignment) ∈ (evaluateAll policy ids room).1) : id ∈ ids :=
  sublist_evaluateAll.subset (List.mem_map_of_mem h)

/-- The decision about a node stands until the end of the pass, which reports it if it changed the
node. -/
theorem evaluateAll_get? (hnodup : ids.Nodup) (hmem : id ∈ ids)
    (hget : room.nodes.get? id = some node) :
    ∃ kept : Assignment,
      (evaluateAll policy ids room).2.nodes.get? id =
          some (node.assign kept.role kept.streamIds) ∧
        room.Offers id kept ∧
        ∀ assignment, (id, assignment) ∈ (evaluateAll policy ids room).1 ↔
          assignment = kept ∧ node.differsFrom kept.role kept.streamIds = true := by
  induction ids generalizing room with
  | nil => simp at hmem
  | cons other rest ih =>
    obtain ⟨hnot, hrest⟩ := List.nodup_cons.1 hnodup
    by_cases hid : id = other
    · -- the node is decided about now, and no later decision of the pass concerns it
      subst hid
      refine ⟨room.decision policy id node, ?_, room.offers_decision policy id node, ?_⟩
      · rw [evaluateAll_cons hget, get?_evaluateAll_of_not_mem hnot, get?_decided_self]
      · intro assignment
        have hlater : (id, assignment) ∉
            (evaluateAll policy rest (room.decided policy id node)).1 :=
          fun h => hnot (mem_of_mem_evaluateAll h)
        rw [evaluateAll_cons hget]
        dsimp only
        split
        · rename_i hdiffers
          simp [hlater, hdiffers]
        · rename_i hdiffers
          simp [hlater, hdiffers]
    · have hmemRest : id ∈ rest := (List.mem_cons.1 hmem).resolve_left hid
      cases hother : room.nodes.get? other with
      | none =>
        rw [evaluateAll_cons_of_none hother]
        exact ih hrest hmemRest hget
      | some otherNode =>
        have hkept : (room.decided policy other otherNode).nodes.get? id = some node := by
          rw [get?_decided_of_ne hid, hget]
        obtain ⟨kept, hfinal, hoffers, hreports⟩ := ih hrest hmemRest hkept
        have hmem : ∀ info ∈ kept.streams, info ∈ room.streamInfos := by
          intro info hinfo
          rw [← streamInfos_assigned (room.decision policy other otherNode)]
          exact hoffers.mem info hinfo
        refine ⟨kept, ?_, ⟨hoffers.nodup, hmem, hoffers.foreign⟩, fun assignment => ?_⟩
        · rw [evaluateAll_cons hother]
          exact hfinal
        · rw [← hreports assignment, evaluateAll_cons hother]
          dsimp only
          split
          · simp [hid]
          · rfl

/-- What a pass leaves of a node, and when it reports the node: the node takes an assignment of
streams that the room has, and the report is that assignment. -/
theorem rebalance_get? (policy : Policy α) (hget : room.nodes.get? id = some node) :
    ∃ kept : Assignment,
      (room.rebalance policy).2.nodes.get? id = some (node.assign kept.role kept.streamIds) ∧
        room.Offers id kept ∧
        ∀ assignment, (id, assignment) ∈ (room.rebalance policy).1 ↔
          assignment = kept ∧ node.differsFrom kept.role kept.streamIds = true :=
  evaluateAll_get? room.nodes.nodup_keys (Table.mem_keys.2 ⟨node, hget⟩) hget

/-- What a decision makes true of its node, and every decision leaves true of the other nodes, a
pass makes true of every node. -/
theorem forall_get?_rebalance {Q : Room α → String → Node α → Prop}
    (hself : ∀ (room : Room α) id node, room.nodes.get? id = some node →
      Q (room.decided policy id node) id
        (node.assign (room.decision policy id node).role (room.decision policy id node).streamIds))
    (hothers : ∀ (room : Room α) id node other otherNode, room.nodes.get? id = some node →
      other ≠ id → Q room other otherNode → Q (room.decided policy id node) other otherNode)
    (hget : (room.rebalance policy).2.nodes.get? id = some node) :
    Q (room.rebalance policy).2 id node := by
  have hpass : ∀ id node, (room.rebalance policy).2.nodes.get? id = some node →
      id ∉ ([] : List String) → Q (room.rebalance policy).2 id node := by
    apply evaluateAll_induction (P := fun remaining now => ∀ id node,
      now.nodes.get? id = some node → id ∉ remaining → Q now id node)
    · intro id rest now node hnode h other otherNode hother hnot
      by_cases heq : other = id
      · subst heq
        rw [get?_decided_self] at hother
        rw [← Option.some.inj hother]
        exact hself now other node hnode
      · rw [get?_decided_of_ne heq] at hother
        have hbefore := h other otherNode hother (List.not_mem_cons_of_ne_of_not_mem heq hnot)
        exact hothers now id node other otherNode hnode heq hbefore
    · intro id rest now habsent h other otherNode hother hnot
      have hne : other ≠ id := by
        rintro rfl
        rw [habsent] at hother
        cases hother
      exact h other otherNode hother (List.not_mem_cons_of_ne_of_not_mem hne hnot)
    · intro other otherNode hother hnot
      exact absurd (Table.mem_keys.2 ⟨otherNode, hother⟩) hnot
  exact hpass id node hget List.not_mem_nil

/-! ## Rooms at rest -/

/-- Every node has what would be decided about it. -/
def AtRest (policy : Policy α) (room : Room α) : Prop :=
  ∀ id node, room.nodes.get? id = some node →
    node.differsFrom (room.decision policy id node).role
      (room.decision policy id node).streamIds = false

theorem AtRest.congr {after : Room α} (h : room.AtRest policy) (hnodes : after.nodes = room.nodes)
    (hinfos : after.streamInfos = room.streamInfos) : after.AtRest policy := by
  intro id node hget
  rw [hnodes] at hget
  rw [decision_congr hnodes hinfos]
  exact h id node hget

/-- A pass reports no changes exactly when no node differs from what would be decided about it
before the pass: as long as nothing has changed, every decision is made from the room as it was. -/
theorem evaluateAll_eq_nil_iff :
    (evaluateAll policy ids room).1 = [] ↔
      ∀ id ∈ ids, ∀ node, room.nodes.get? id = some node →
        node.differsFrom (room.decision policy id node).role
          (room.decision policy id node).streamIds = false := by
  induction ids generalizing room with
  | nil => simp [evaluateAll]
  | cons id rest ih =>
    rw [List.forall_mem_cons]
    cases hget : room.nodes.get? id with
    | none => simp [evaluateAll_cons_of_none hget, ih]
    | some node =>
      rw [evaluateAll_cons hget]
      cases hdiffers : node.differsFrom (room.decision policy id node).role
          (room.decision policy id node).streamIds with
      | true => simp [hdiffers]
      | false =>
        have hnodes : (room.decided policy id node).nodes = room.nodes :=
          nodes_assigned_of_not_differsFrom hget hdiffers
        have hsame : ∀ other otherNode,
            (room.decided policy id node).decision policy other otherNode =
              room.decision policy other otherNode :=
          fun _ _ => decision_congr hnodes streamInfos_decided
        simp [ih, hnodes, hsame, hdiffers]

theorem rebalance_eq_nil_iff : (room.rebalance policy).1 = [] ↔ room.AtRest policy := by
  rw [rebalance, evaluateAll_eq_nil_iff]
  constructor
  · intro h id node hget
    exact h id (Table.mem_keys.2 ⟨node, hget⟩) node hget
  · intro h id _ node hget
    exact h id node hget

/-- A pass over a room at rest leaves the nodes as they are. -/
theorem AtRest.nodes_rebalance (h : room.AtRest policy) :
    (room.rebalance policy).2.nodes = room.nodes := by
  refine (evaluateAll_induction
    (P := fun _ r => r.nodes = room.nodes ∧ r.streamInfos = room.streamInfos) ?_ ?_ ⟨rfl, rfl⟩).1
  · rintro id _ r node hget ⟨hnodes, hinfos⟩
    have hsame := h.congr hnodes hinfos id node hget
    exact ⟨(nodes_assigned_of_not_differsFrom hget hsame).trans hnodes,
      streamInfos_decided.trans hinfos⟩
  · intro _ _ _ _ hkept
    exact hkept

/-- A room at rest stays at rest. -/
theorem AtRest.rebalance (h : room.AtRest policy) : (room.rebalance policy).2.AtRest policy :=
  h.congr h.nodes_rebalance streamInfos_rebalance

/-- A node of a room at rest has the role that would be decided. -/
theorem AtRest.role_eq (h : room.AtRest policy) (hget : room.nodes.get? id = some node) :
    node.role = (room.decision policy id node).role :=
  (congrArg Node.role (Node.assign_of_not_differsFrom (h id node hget))).symm

end Room

end RelayMesh

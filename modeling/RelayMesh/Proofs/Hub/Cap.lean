import RelayMesh.Proofs.Hub.Run

/-!
# The number of forwarders after a pass

A room may hold more forwarders than `optimalForwarders` allows, because it
shrinks when nodes leave.  One pass brings their number back under the bound,
and every node that still forwards after the pass passes the gate and relays
no more streams than it may.

The count is not monotone along the pass.  `CapProgress` is the invariant: at
every moment either the bound holds, or every node decided about so far is a
receiver.  `capProgress_decided` is the step, and at the end of the pass both
cases give the bound.
-/

namespace RelayMesh

namespace Room

variable {α : Type} {room : Room α} {id : String} {node : Node α}

/-! ## Counting forwarders -/

/-- How many nodes have a forwarding role. -/
def forwarders (room : Room α) : Nat :=
  room.nodes.values.countP (fun node => node.role.isForwarding)

/-- How many nodes other than one have a forwarding role. -/
def otherForwarders (room : Room α) (id : String) : Nat :=
  (room.nodes.entries.filter (fun entry => entry.1 ≠ id)).countP
    (fun entry => entry.2.role.isForwarding)

theorem forwarders_insert (room : Room α) (id : String) (node : Node α) (streams : Table Stream) :
    Room.forwarders { nodes := room.nodes.insert id node, streams } =
      room.otherForwarders id + if node.role.isForwarding then 1 else 0 := by
  have hperm := room.nodes.entries_insert_perm id node
  rw [forwarders, Table.values, List.countP_map, hperm.countP_eq, List.countP_cons,
    otherForwarders]
  rfl

theorem forwarders_eq (h : room.nodes.get? id = some node) :
    room.forwarders = room.otherForwarders id + if node.role.isForwarding then 1 else 0 := by
  rw [← forwarders_insert room id node room.streams, Table.insert_of_get? h]

theorem forwarders_eq_zero
    (h : ∀ id node, room.nodes.get? id = some node → node.role.isForwarding = false) :
    room.forwarders = 0 := by
  rw [forwarders, List.countP_eq_zero]
  intro node hmem
  obtain ⟨id, hget⟩ := Table.mem_values.1 hmem
  simp [h id node hget]

/-- What the choice counts as taken places are the other forwarders of the room. -/
theorem forwarderCount_nodeViews (room : Room α) (id name : String) (node : Node α) :
    Selection.forwarderCount (room.nodeViews name) (node.view id name) =
      room.otherForwarders id := by
  rw [Selection.forwarderCount, Selection.others, nodeViews, List.filter_map, List.countP_map,
    otherForwarders]
  rfl

theorem length_nodeViews (room : Room α) (name : String) :
    (room.nodeViews name).length = room.nodes.size := by
  rw [nodeViews, List.length_map, Table.size]

/-! ## Nodes that may forward -/

variable [Scalar α] {policy : Policy α}

/-- Whether a node, if it forwards, passes the gate under its last report, and relays no more
streams than its own limit and that of the policy, if the policy sets one. -/
def Fits (policy : Policy α) (node : Node α) : Prop :=
  node.role.isForwarding = true →
    node.capabilities.allows node.load policy.maxCpu policy.maxMemory = true ∧
      node.relaying.size ≤ node.capabilities.maxStreams ∧
      (0 < policy.maxStreams → node.relaying.size ≤ policy.maxStreams)

/-- The bounds on the forwarders of a room: there are no more than the size of the room allows,
and each of them fits. -/
structure WithinCap (policy : Policy α) (room : Room α) : Prop where
  few : room.forwarders ≤ optimalForwarders room.nodes.size
  fits : ∀ id node, room.nodes.get? id = some node → Fits policy node

theorem decision_isForwarding :
    (room.decision policy id node).role.isForwarding =
      Selection.admits policy (room.nodeViews "") (node.view id "") :=
  Selection.choose_isForwarding

/-- A node with a forwarding role after its decision passes the gate. -/
theorem allows_of_decision_isForwarding
    (h : (room.decision policy id node).role.isForwarding = true) :
    node.capabilities.allows node.load policy.maxCpu policy.maxMemory = true := by
  rw [decision_isForwarding, Selection.admits] at h
  simp only [Bool.and_eq_true] at h
  exact h.1.1.1

/-- A node gets a forwarding role only while there is a free place. -/
theorem otherForwarders_lt_of_decision_isForwarding
    (h : (room.decision policy id node).role.isForwarding = true) :
    room.otherForwarders id < optimalForwarders room.nodes.size := by
  rw [decision_isForwarding, Selection.admits] at h
  simp only [Bool.and_eq_true, decide_eq_true_eq, forwarderCount_nodeViews,
    length_nodeViews] at h
  exact h.1.2

theorem size_relaying_decided_le (room : Room α) (policy : Policy α) (id : String)
    (node : Node α) :
    (node.assign (room.decision policy id node).role
        (room.decision policy id node).streamIds).relaying.size ≤
      policy.streamLimit (node.view id "") := by
  have hset := IdSet.size_ofList_le (room.decision policy id node).streamIds
  have hlist : (room.decision policy id node).streamIds.length ≤
      policy.streamLimit (node.view id "") := by
    rw [Assignment.streamIds, List.length_map]
    exact Selection.length_choose_streams_le
  exact Nat.le_trans hset hlist

/-- A node fits right after the decision about it. -/
theorem fits_decided (room : Room α) (policy : Policy α) (id : String) (node : Node α) :
    Fits policy (node.assign (room.decision policy id node).role
      (room.decision policy id node).streamIds) := by
  intro hforwarding
  have hallows : node.capabilities.allows node.load policy.maxCpu policy.maxMemory = true :=
    allows_of_decision_isForwarding (show (room.decision policy id node).role.isForwarding = true
      from hforwarding)
  have hsize := size_relaying_decided_le room policy id node
  refine ⟨hallows, ?_, fun hpos => ?_⟩
  · refine Nat.le_trans hsize ?_
    rw [Policy.streamLimit]
    split
    · exact Nat.min_le_left ..
    · exact Nat.le_refl _
  · rw [Policy.streamLimit, if_pos hpos] at hsize
    exact Nat.le_trans hsize (Nat.min_le_right ..)

/-! ## The bound along a pass -/

/-- What a pass has reached while some nodes are still to be decided about. -/
structure CapProgress (policy : Policy α) (remaining : List String) (room : Room α) : Prop where
  fits : ∀ id node, room.nodes.get? id = some node → id ∉ remaining → Fits policy node
  bound : room.forwarders ≤ optimalForwarders room.nodes.size ∨
    ∀ id node, room.nodes.get? id = some node → id ∉ remaining → node.role.isForwarding = false

/-- A pass has reached nothing before its first decision. -/
theorem capProgress_start (policy : Policy α) (room : Room α) :
    CapProgress policy room.nodes.keys room where
  fits _ node hget hnot := absurd (Table.mem_keys.2 ⟨node, hget⟩) hnot
  bound := .inr fun _ node hget hnot => absurd (Table.mem_keys.2 ⟨node, hget⟩) hnot

theorem size_decided (h : room.nodes.get? id = some node) :
    (room.decided policy id node).nodes.size = room.nodes.size := by
  rw [Table.size_eq_length_keys, decided, keys_nodes_assigned h, ← Table.size_eq_length_keys]

/-- The step of the invariant.  An admitted node found a free place, so the bound holds after it;
a rejected node is one more receiver. -/
theorem capProgress_decided {rest : List String} (hget : room.nodes.get? id = some node)
    (h : CapProgress policy (id :: rest) room) :
    CapProgress policy rest (room.decided policy id node) := by
  have hforwarders : (room.decided policy id node).forwarders =
      room.otherForwarders id +
        if (room.decision policy id node).role.isForwarding then 1 else 0 :=
    forwarders_insert ..
  refine ⟨fun other otherNode hother hnot => ?_, ?_⟩
  · rw [get?_decided] at hother
    split at hother
    · rw [← Option.some.inj hother]
      exact fits_decided room policy id node
    · rename_i hne
      exact h.fits other otherNode hother (List.not_mem_cons_of_ne_of_not_mem hne hnot)
  · rw [size_decided hget, hforwarders]
    cases hrole : (room.decision policy id node).role.isForwarding with
    | true =>
      have hfree := otherForwarders_lt_of_decision_isForwarding hrole
      left
      simp only [if_true]
      omega
    | false =>
      rcases h.bound with hbound | hreceivers
      · left
        have hbefore := forwarders_eq hget
        simp only [Bool.false_eq_true, if_false]
        omega
      · right
        intro other otherNode hother hnot
        rw [get?_decided] at hother
        split at hother
        · rw [← Option.some.inj hother]
          exact hrole
        · rename_i hne
          exact hreceivers other otherNode hother (List.not_mem_cons_of_ne_of_not_mem hne hnot)

theorem capProgress_skipped {rest : List String} (hget : room.nodes.get? id = none)
    (h : CapProgress policy (id :: rest) room) : CapProgress policy rest room := by
  have hnot : ∀ other node, room.nodes.get? other = some node → other ∉ rest →
      other ∉ id :: rest := by
    intro other node hother hrest
    refine List.not_mem_cons_of_ne_of_not_mem (fun heq => ?_) hrest
    rw [heq, hget] at hother
    exact Option.some_ne_none _ hother.symm
  refine ⟨fun other node hother hrest => h.fits other node hother (hnot other node hother hrest),
    h.bound.imp_right fun hreceivers other node hother hrest => ?_⟩
  exact hreceivers other node hother (hnot other node hother hrest)

theorem capProgress_rebalance (policy : Policy α) (room : Room α) :
    CapProgress policy [] (room.rebalance policy).2 :=
  evaluateAll_induction (fun _ _ _ _ => capProgress_decided) (fun _ _ _ => capProgress_skipped)
    (capProgress_start policy room)

/-- After a pass the bounds hold, whatever the room was before. -/
theorem withinCap_rebalance (policy : Policy α) (room : Room α) :
    WithinCap policy (room.rebalance policy).2 := by
  have hprogress := capProgress_rebalance policy room
  refine ⟨?_, fun id node hget => hprogress.fits id node hget List.not_mem_nil⟩
  rcases hprogress.bound with hbound | hreceivers
  · exact hbound
  · rw [forwarders_eq_zero fun id node hget => hreceivers id node hget List.not_mem_nil]
    exact Nat.zero_le _

end Room

/-! ## The pass of the hub -/

namespace Hub

variable {α : Type} [Scalar α]

/-- Rebalancing a room of the hub succeeds whatever the room is.  It keeps the nodes, and the
bounds on the forwarders hold after it. -/
theorem rebalance_caps_forwarders {hub : Hub α} {roomId : String} {room : Room α}
    (hroom : hub.rooms.get? roomId = some room) :
    ∃ changes hubAfter after,
      hub.rebalance roomId = .ok (changes, hubAfter) ∧
        hubAfter.rooms.get? roomId = some after ∧
        after.nodes.keys = room.nodes.keys ∧ after.WithinCap hub.policy := by
  refine ⟨_, _, (room.rebalance hub.policy).2, rebalance_of_get? hroom, ?_, Room.keys_rebalance,
    Room.withinCap_rebalance hub.policy room⟩
  rw [get?_withRoom, if_pos rfl]

/-- A node that forwards although nobody decided so. -/
def eager : Node Float where
  user := "eager"
  role := .forwarder
  capabilities := ⟨true, 0, 2⟩
  load := Load.zero
  lastReport := 0

/-- Three forwarders in a room that is large enough for one. -/
def crowded : Room Float where
  nodes := Table.ofList [("a", eager), ("b", eager), ("c", eager)]

/-- A crowded room is within the bounds after one pass. -/
theorem rebalance_caps_crowded :
    optimalForwarders crowded.nodes.size < crowded.forwarders ∧
      ((Hub.new Policy.standard).withRoom "r" crowded).rooms.get? "r" = some crowded ∧
      ∃ changes hubAfter after,
        ((Hub.new Policy.standard).withRoom "r" crowded).rebalance "r" =
            .ok (changes, hubAfter) ∧
          hubAfter.rooms.get? "r" = some after ∧
          after.nodes.keys = crowded.nodes.keys ∧ after.WithinCap Policy.standard := by
  have hroom :
      ((Hub.new Policy.standard).withRoom "r" crowded).rooms.get? "r" = some crowded := by
    rw [get?_withRoom, if_pos rfl]
  exact ⟨by decide, hroom, rebalance_caps_forwarders hroom⟩

end Hub

end RelayMesh

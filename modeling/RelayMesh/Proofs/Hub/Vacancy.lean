import RelayMesh.Proofs.Room.Admission

/-!
# Rooms that a pass leaves without a relay

A pass decides about one node after the other, and each decision counts the
later nodes as they were before the pass.  A node that would take over is
turned down because a later node still forwards, and when the pass comes to
that node it may turn it down as well, because the earlier one ranks higher.
So a pass can leave a room without a relay although some of its nodes pass the
gate.

* `Room.stoodDown` is the room as the pass finds it at some node if it has
  turned down every node before.  `Room.Prevails` says that the node would be
  admitted there.
* `relays_rebalance_iff` is the exact condition: a pass leaves a relay exactly
  when some node prevails.
* `exists_prevails` shows that a node prevails in a room in which none forwards
  yet, so such a room gets a relay.
-/

namespace RelayMesh

namespace Room

variable {α : Type} {room after : Room α} {id other : String} {node : Node α}

/-! ## Nodes that stand down -/

/-- The room in which some nodes only receive, and the others are as they were. -/
def standDown (room : Room α) (gone : String → Bool) : Room α :=
  { room with
    nodes := room.nodes.map (fun other node => if gone other then node.assign .receiver [] else node) }

/-- The room in which every node before one of them only receives. -/
def stoodDown (room : Room α) (id : String) : Room α :=
  room.standDown (fun other => decide (other < id))

theorem get?_nodes_standDown (gone : String → Bool) :
    (room.standDown gone).nodes.get? other =
      (room.nodes.get? other).map
        (fun node => if gone other then node.assign .receiver [] else node) :=
  Table.get?_map ..

theorem size_nodes_standDown (gone : String → Bool) :
    (room.standDown gone).nodes.size = room.nodes.size :=
  Table.size_map ..

/-- In increasing order, the nodes that are still to be decided about are those that are not before
the next one. -/
theorem mem_remaining_iff {done rest : List String} (hkeys : done ++ id :: rest = room.nodes.keys)
    (hother : other ∈ room.nodes.keys) : other ∈ id :: rest ↔ ¬other < id := by
  have hsorted := room.nodes.sorted_keys
  rw [← hkeys, List.pairwise_append, List.pairwise_cons] at hsorted
  obtain ⟨-, ⟨hlater, -⟩, hearlier⟩ := hsorted
  rw [← hkeys, List.mem_append] at hother
  constructor
  · intro hmem hlt
    rcases List.mem_cons.1 hmem with rfl | hrest
    · exact String.lt_irrefl _ hlt
    · exact String.lt_irrefl _ (String.lt_trans hlt (hlater other hrest))
  · intro hnot
    rcases hother with hdone | hmem
    · exact absurd (hearlier other hdone id (List.mem_cons_self ..)) hnot
    · exact hmem

/-- As long as the pass turns every node down, it finds the room stood down before the next node. -/
theorem nodes_standDown_remaining {done rest : List String}
    (hkeys : done ++ id :: rest = room.nodes.keys) :
    (room.standDown (fun other => decide (other ∉ id :: rest))).nodes =
      (room.stoodDown id).nodes := by
  refine Table.ext_get? fun other => ?_
  unfold stoodDown
  rw [get?_nodes_standDown, get?_nodes_standDown]
  cases hget : room.nodes.get? other with
  | none => rfl
  | some node =>
    have hmem := mem_remaining_iff hkeys (Table.mem_keys.2 ⟨node, hget⟩)
    simp only [Option.map_some, decide_eq_true_eq, hmem, not_not]

/-- Some node has a forwarding role. -/
def Relays (room : Room α) : Prop :=
  ∃ id node, room.nodes.get? id = some node ∧ node.role.isForwarding = true

variable [Scalar α] {policy : Policy α}

/-- A node passes the gate and finds a free place after every node before it has stood down. -/
def Prevails (policy : Policy α) (room : Room α) (id : String) : Prop :=
  ∃ node, room.nodes.get? id = some node ∧ node.isEligible policy = true ∧
    pressure policy (room.stoodDown id) id (node.rank policy) < optimalForwarders room.nodes.size

/-! ## The pass up to the first admission -/

/-- What a pass has come to while some nodes are still to be decided about: it has turned down every
node so far and none of them prevails, or it has admitted a node and one prevails. -/
inductive Undecided (policy : Policy α) (room : Room α) (remaining : List String)
    (now : Room α) : Prop where
  | rejecting (hnodes : now.nodes = (room.standDown (fun id => decide (id ∉ remaining))).nodes)
      (hnone : ∀ id ∈ room.nodes.keys, id ∉ remaining → ¬Prevails policy room id)
  | admitted {id : String} {node : Node α} (hget : now.nodes.get? id = some node)
      (hpassed : id ∉ remaining) (hrole : node.role.isForwarding = true)
      (hsome : ∃ id, Prevails policy room id)

theorem undecided_start (policy : Policy α) (room : Room α) :
    Undecided policy room room.nodes.keys room := by
  refine .rejecting (Table.ext_get? fun id => ?_) fun id hmem hnot => absurd hmem hnot
  rw [get?_nodes_standDown]
  cases hget : room.nodes.get? id with
  | none => rfl
  | some node =>
    have hmem : id ∈ room.nodes.keys := Table.mem_keys.2 ⟨node, hget⟩
    simp [hmem]

variable {done rest : List String} {now : Room α}

omit [Scalar α] in
theorem not_mem_rest_of_keys (hkeys : done ++ id :: rest = room.nodes.keys) : id ∉ rest := by
  have hnodup := room.nodes.nodup_keys
  rw [← hkeys] at hnodup
  exact (List.nodup_cons.1 (List.nodup_append.1 hnodup).2.1).1

omit [Scalar α] in
/-- While the pass turns every node down, it finds the next node as it was. -/
theorem get?_of_rejecting
    (hnodes : now.nodes = (room.standDown (fun other => decide (other ∉ id :: rest))).nodes)
    (hget : now.nodes.get? id = some node) : room.nodes.get? id = some node := by
  rw [hnodes, get?_nodes_standDown] at hget
  simpa using hget

/-- While the pass turns every node down, it admits the next node exactly when that node prevails. -/
theorem admitted_iff_prevails (hkeys : done ++ id :: rest = room.nodes.keys)
    (hsize : 2 ≤ room.nodes.size)
    (hnodes : now.nodes = (room.standDown (fun other => decide (other ∉ id :: rest))).nodes)
    (hget : now.nodes.get? id = some node) :
    (now.decision policy id node).role.isForwarding = true ↔ Prevails policy room id := by
  have hbefore := get?_of_rejecting hnodes hget
  have hplaces : now.nodes.size = room.nodes.size := by
    rw [hnodes, size_nodes_standDown]
  rw [decision_isForwarding_iff, hplaces,
    pressure_congr (hnodes.trans (nodes_standDown_remaining hkeys))]
  constructor
  · intro h
    exact ⟨node, hbefore, h.1, h.2.2⟩
  · intro h
    obtain ⟨found, hfound, helig, hpressure⟩ := h
    rw [hbefore] at hfound
    obtain rfl := Option.some.inj hfound
    exact ⟨helig, hsize, hpressure⟩

/-- A node that is turned down stands down like the nodes before it. -/
theorem nodes_decided_of_rejected (hnot : id ∉ rest)
    (hnodes : now.nodes = (room.standDown (fun other => decide (other ∉ id :: rest))).nodes)
    (hget : now.nodes.get? id = some node)
    (hrole : (now.decision policy id node).role.isForwarding = false) :
    (now.decided policy id node).nodes =
      (room.standDown (fun other => decide (other ∉ rest))).nodes := by
  have hbefore := get?_of_rejecting hnodes hget
  apply Table.ext_get?
  intro other
  rw [get?_decided, decision_eq_receiver hrole, get?_nodes_standDown]
  by_cases heq : other = id
  · subst heq
    simp [hbefore, hnot, Assignment.receiver, Assignment.streamIds]
  · rw [if_neg heq, hnodes, get?_nodes_standDown]
    simp [heq]

/-- The step of the pass.  While nobody was admitted, the next node is admitted exactly when it
prevails; afterwards the admitted node stays. -/
theorem undecided_decided (hkeys : done ++ id :: rest = room.nodes.keys)
    (hsize : 2 ≤ room.nodes.size) (hget : now.nodes.get? id = some node)
    (h : Undecided policy room (id :: rest) now) :
    Undecided policy room rest (now.decided policy id node) := by
  have hnot : id ∉ rest := not_mem_rest_of_keys hkeys
  cases h with
  | admitted hother hpassed hrole hsome =>
    rename_i other otherNode
    rw [List.mem_cons, not_or] at hpassed
    have hkept : (now.decided policy id node).nodes.get? other = some otherNode := by
      rw [get?_decided_of_ne hpassed.1, hother]
    exact .admitted hkept hpassed.2 hrole hsome
  | rejecting hnodes hnone =>
    have hadmitted : (now.decision policy id node).role.isForwarding = true ↔
        Prevails policy room id :=
      admitted_iff_prevails hkeys hsize hnodes hget
    cases hrole : (now.decision policy id node).role.isForwarding with
    | true =>
      exact .admitted (get?_decided_self policy id node) hnot hrole ⟨id, hadmitted.1 hrole⟩
    | false =>
      refine .rejecting (nodes_decided_of_rejected hnot hnodes hget hrole) ?_
      intro other hother hrest
      by_cases heq : other = id
      · subst heq
        intro hprevails
        rw [hadmitted.2 hprevails] at hrole
        exact Bool.noConfusion hrole
      · exact hnone other hother (List.not_mem_cons_of_ne_of_not_mem heq hrest)

theorem undecided_skipped (hmem : id ∈ room.nodes.keys) (hget : now.nodes.get? id = none)
    (h : Undecided policy room (id :: rest) now) : Undecided policy room rest now := by
  cases h with
  | admitted hother hpassed hrole hsome =>
    rw [List.mem_cons, not_or] at hpassed
    exact .admitted hother hpassed.2 hrole hsome
  | rejecting hnodes hnone =>
    obtain ⟨node, hnode⟩ := Table.mem_keys.1 hmem
    rw [hnodes, get?_nodes_standDown, hnode] at hget
    exact absurd hget (by simp)

theorem undecided_rebalance (hsize : 2 ≤ room.nodes.size) :
    Undecided policy room [] (room.rebalance policy).2 := by
  refine (evaluateAll_induction (P := fun remaining now =>
    (∃ done, done ++ remaining = room.nodes.keys) ∧ Undecided policy room remaining now)
    ?_ ?_ ⟨⟨[], rfl⟩, undecided_start policy room⟩).2
  · rintro id rest now node hget ⟨⟨done, hkeys⟩, h⟩
    refine ⟨⟨done ++ [id], by simp [hkeys]⟩, undecided_decided hkeys hsize hget h⟩
  · rintro id rest now hget ⟨⟨done, hkeys⟩, h⟩
    have hmem : id ∈ room.nodes.keys := by simp [← hkeys]
    exact ⟨⟨done ++ [id], by simp [hkeys]⟩, undecided_skipped hmem hget h⟩

/-- A pass over a room of at least two nodes leaves a relay exactly when some node prevails. -/
theorem relays_rebalance_iff (hsize : 2 ≤ room.nodes.size) :
    (room.rebalance policy).2.Relays ↔ ∃ id, Prevails policy room id := by
  have hdecided : Undecided policy room [] (room.rebalance policy).2 := undecided_rebalance hsize
  cases hdecided with
  | admitted hget hpassed hrole hsome => exact iff_of_true ⟨_, _, hget, hrole⟩ hsome
  | rejecting hnodes hnone =>
    constructor
    · rintro ⟨id, node, hget, hrole⟩
      rw [hnodes, get?_nodes_standDown] at hget
      obtain ⟨before, -, rfl⟩ := Option.map_eq_some_iff.1 hget
      simp [Node.assign, Role.isForwarding] at hrole
    · rintro ⟨id, hprevails⟩
      have hmem : id ∈ room.nodes.keys := by
        obtain ⟨node, hget, -⟩ := hprevails
        exact Table.mem_keys.2 ⟨node, hget⟩
      exact absurd hprevails (hnone id hmem List.not_mem_nil)

/-! ## Rooms in which no node forwards -/

omit [Scalar α] in
theorem countOthers_eq_zero {test : String → Node α → Bool}
    (h : ∀ other node, room.nodes.get? other = some node → test other node = false) :
    room.countOthers id test = 0 := by
  rw [countOthers, List.countP_eq_zero]
  rintro ⟨other, node⟩ hmem
  simp [h other node ((Table.mem_entries_iff ..).1 (List.mem_of_mem_filter hmem))]

/-- Where no node forwards, nothing but a higher score makes a node outrank another one. -/
theorem pressure_eq_zero {bar : α}
    (hreceive : ∀ other node, room.nodes.get? other = some node → node.role.isForwarding = false)
    (htop : ∀ other node, room.nodes.get? other = some node → node.isEligible policy = true →
      ¬bar < node.score policy) :
    pressure policy room id bar = 0 := by
  have hforwarders : room.otherForwarders id = 0 := countOthers_eq_zero hreceive
  have houtranked : room.countOthers id (fun _ node => outranks policy bar node) = 0 := by
    apply countOthers_eq_zero
    intro other node hget
    unfold outranks
    rw [Node.rank_of_not_isForwarding (hreceive other node hget)]
    cases helig : node.isEligible policy with
    | false => rfl
    | true => simp [htop other node hget helig]
  rw [pressure, hforwarders, houtranked]

theorem optimalForwarders_pos (nodes : Nat) : 0 < optimalForwarders nodes := by
  unfold optimalForwarders
  omega

/-- Of the nodes that pass the gate, one has a score that no other of them exceeds. -/
theorem exists_top_eligible (horder : policy.OrdersScores (room.scores policy))
    (helig : ∃ id node, room.nodes.get? id = some node ∧ node.isEligible policy = true) :
    ∃ id node, room.nodes.get? id = some node ∧ node.isEligible policy = true ∧
      ∀ other otherNode, room.nodes.get? other = some otherNode →
        otherNode.isEligible policy = true → ¬node.score policy < otherNode.score policy :=
  exists_top_node horder.orders (fun _ hnode =>
    Policy.mem_ranks (List.mem_map_of_mem (f := fun node => node.score policy) hnode)) helig

/-- The best of the nodes that pass the gate prevails in a room in which no node forwards. -/
theorem exists_prevails (horder : policy.OrdersScores (room.scores policy))
    (hidle : ¬room.Relays)
    (helig : ∃ id node, room.nodes.get? id = some node ∧ node.isEligible policy = true) :
    ∃ id, Prevails policy room id := by
  have hreceive : ∀ id node, room.nodes.get? id = some node → node.role.isForwarding = false :=
    fun id node hget => Bool.eq_false_iff.2 fun hrole => hidle ⟨id, node, hget, hrole⟩
  obtain ⟨id, node, hget, hpasses, hmax⟩ := exists_top_eligible horder helig
  refine ⟨id, node, hget, hpasses, ?_⟩
  -- whoever stands down here did not forward before, so nothing changes
  have hstood : ∀ other after, (room.stoodDown id).nodes.get? other = some after →
      ∃ before, room.nodes.get? other = some before ∧ after.role.isForwarding = false ∧
        after.isEligible policy = before.isEligible policy ∧
        after.score policy = before.score policy := by
    intro other after hafter
    rw [stoodDown, get?_nodes_standDown] at hafter
    obtain ⟨before, hbefore, rfl⟩ := Option.map_eq_some_iff.1 hafter
    refine ⟨before, hbefore, ?_⟩
    split
    · exact ⟨rfl, rfl, rfl⟩
    · exact ⟨hreceive other before hbefore, rfl, rfl⟩
  rw [Node.rank_of_not_isForwarding (hreceive id node hget), pressure_eq_zero]
  · exact optimalForwarders_pos _
  · intro other after hafter
    obtain ⟨-, -, hrole, -, -⟩ := hstood other after hafter
    exact hrole
  · intro other after hafter helig
    obtain ⟨before, hbefore, -, hgate, hscore⟩ := hstood other after hafter
    rw [hscore]
    exact hmax other before hbefore (hgate ▸ helig)

end Room

/-! ## The pass of the hub -/

namespace Hub

variable {α : Type} [Scalar α]

/-- A pass over a room of at least two nodes leaves a relay exactly when some node that passes the
gate finds a free place after every node before it has stood down.  In particular it does so if a
node passes the gate and no node forwards before the pass. -/
theorem rebalance_relays_iff {hub : Hub α} {roomId : String} {room : Room α}
    (hroom : hub.rooms.get? roomId = some room) (hsize : 2 ≤ room.nodes.size) :
    ∃ changes hubAfter after,
      hub.rebalance roomId = .ok (changes, hubAfter) ∧
        hubAfter.rooms.get? roomId = some after ∧
        (after.Relays ↔ ∃ id, Room.Prevails hub.policy room id) ∧
        (hub.policy.OrdersScores (room.scores hub.policy) → ¬room.Relays →
          (∃ id node, room.nodes.get? id = some node ∧ node.isEligible hub.policy = true) →
          after.Relays) := by
  refine ⟨_, _, (room.rebalance hub.policy).2, rebalance_of_get? hroom, ?_,
    Room.relays_rebalance_iff hsize, fun horder hidle helig => ?_⟩
  · rw [get?_withRoom, if_pos rfl]
  · exact (Room.relays_rebalance_iff hsize).2 (Room.exists_prevails horder hidle helig)

/-- A node that is willing to relay and has some bandwidth. -/
def willing (role : Role) (bandwidth : Float) : Node Float where
  user := "willing"
  role
  capabilities := ⟨true, 0, 3⟩
  load := { (Load.zero : Load Float) with bandwidth }
  lastReport := 0

/-- The second node forwards, and the first one has a much better report since. -/
def handover : Room Float where
  nodes := Table.ofList [("a", willing .receiver 10), ("b", willing .forwarder 0)]

/-- Both nodes pass the gate, and still none relays after the pass: the first is turned down because
the second one forwards, and the second because the first one ranks higher. -/
theorem rebalance_relays_handover :
    ((Hub.new Policy.standard).withRoom "r" handover).rooms.get? "r" = some handover ∧
      2 ≤ handover.nodes.size ∧
      (∀ node ∈ handover.nodes.values, node.isEligible Policy.standard = true) ∧
      ∃ changes hubAfter after,
        ((Hub.new Policy.standard).withRoom "r" handover).rebalance "r" =
            .ok (changes, hubAfter) ∧
          hubAfter.rooms.get? "r" = some after ∧ ¬after.Relays := by
  have hroom :
      ((Hub.new Policy.standard).withRoom "r" handover).rooms.get? "r" = some handover := by
    rw [get?_withRoom, if_pos rfl]
  have hsize : 2 ≤ handover.nodes.size := by decide
  refine ⟨hroom, hsize, by decide +kernel, ?_⟩
  obtain ⟨changes, hubAfter, after, hpass, hafter, hiff, -⟩ := rebalance_relays_iff hroom hsize
  refine ⟨changes, hubAfter, after, hpass, hafter, fun hrelays => ?_⟩
  obtain ⟨id, node, hget, -, hpressure⟩ := hiff.1 hrelays
  have hid : id = "a" ∨ id = "b" := by
    have hmem : id ∈ handover.nodes.keys := Table.mem_keys.2 ⟨node, hget⟩
    have hkeys : handover.nodes.keys = ["a", "b"] := by decide
    simpa [hkeys] using hmem
  -- before either of them the other one already takes the only place
  have hcrowded : ∀ id ∈ ["a", "b"], ∀ node ∈ (handover.nodes.get? id).toList,
      ¬Room.pressure Policy.standard (handover.stoodDown id) id (node.rank Policy.standard) <
        optimalForwarders handover.nodes.size := by decide +kernel
  exact hcrowded id (by simpa using hid) node (by simp [hget]) hpressure

end Hub

end RelayMesh

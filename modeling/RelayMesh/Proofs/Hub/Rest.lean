import RelayMesh.Proofs.Hub.Vacancy

/-!
# Rooms over which a pass reports no changes

In a room at rest every decision found the room as it is.  What this says
about the forwarders comes from two nodes.

* Of the nodes that wait for a place, the one that ranks highest was turned
  down, so it found none (`AtRest.exists_waiting`).
* Every forwarder was admitted, so it found one, also the forwarder that ranks
  lowest (`AtRest.pressure_lt`).

A forwarder that ranks above a node counts twice in the pressure on that node:
it takes a place, and it has the better claim to one of the others.  So a room
may be at rest with half of its places free: `AtRest.forwarders_bounds` and
`AtRest.forwarders_eq_half` say how many nodes forward.  But no node waits that
stands above every forwarder (`AtRest.exists_not_lt`).
-/

namespace RelayMesh

namespace Node

variable {α : Type} [Scalar α] {node : Node α} {policy : Policy α}

/-- Whether the node passes the gate and does not forward. -/
def waits (node : Node α) (policy : Policy α) : Bool :=
  node.isEligible policy && !node.role.isForwarding

theorem waits_iff :
    node.waits policy = true ↔ node.isEligible policy = true ∧ node.role.isForwarding = false := by
  simp [waits]

end Node

namespace Room

variable {α : Type} [Scalar α] {room : Room α} {policy : Policy α} {id other : String}
  {node otherNode : Node α}

/-- How many nodes pass the gate. -/
def eligibles (policy : Policy α) (room : Room α) : Nat :=
  room.nodes.values.countP (fun node => node.isEligible policy)

/-- The ranks of the nodes of a room. -/
def ranks (room : Room α) (policy : Policy α) : List α :=
  room.nodes.values.map (fun node => node.rank policy)

theorem mem_ranks_of_mem_values (hnode : node ∈ room.nodes.values) :
    node.rank policy ∈ room.ranks policy :=
  List.mem_map_of_mem hnode

theorem mem_ranks (hget : room.nodes.get? id = some node) : node.rank policy ∈ room.ranks policy :=
  mem_ranks_of_mem_values (Table.mem_values.2 ⟨id, hget⟩)

/-! ## Who waits and who outranks whom -/

/-- If more nodes pass the gate than forward, then some node waits. -/
theorem exists_waits (hless : room.forwarders < room.eligibles policy) :
    ∃ id node, room.nodes.get? id = some node ∧ node.waits policy = true := by
  by_contra hnone
  have hall : room.eligibles policy ≤ room.forwarders := by
    apply List.countP_mono_left
    intro node hmem helig
    obtain ⟨id, hget⟩ := Table.mem_values.1 hmem
    by_contra hrole
    exact hnone ⟨id, node, hget, Node.waits_iff.2 ⟨helig, by simpa using hrole⟩⟩
  omega

/-- Whoever outranks the best waiting node forwards. -/
theorem isForwarding_of_outranks
    (htop : ∀ other otherNode, room.nodes.get? other = some otherNode →
      otherNode.waits policy = true → ¬node.rank policy < otherNode.rank policy)
    (hother : room.nodes.get? other = some otherNode)
    (houtranks : outranks policy (node.rank policy) otherNode = true) :
    otherNode.role.isForwarding = true := by
  simp only [outranks, Bool.and_eq_true, decide_eq_true_eq] at houtranks
  obtain ⟨helig, hlt⟩ := houtranks
  by_contra hrole
  exact htop other otherNode hother (Node.waits_iff.2 ⟨helig, by simpa using hrole⟩) hlt

omit [Scalar α] in
theorem forwarders_eq_zero_of_not_relays (hidle : ¬room.Relays) : room.forwarders = 0 :=
  forwarders_eq_zero fun id node hget =>
    Bool.eq_false_iff.2 fun hrole => hidle ⟨id, node, hget, hrole⟩

/-- Of any two forwarders, one ranks above the other. -/
def RanksForwarders (policy : Policy α) (room : Room α) : Prop :=
  ∀ id node other otherNode, room.nodes.get? id = some node →
    room.nodes.get? other = some otherNode → node.role.isForwarding = true →
    otherNode.role.isForwarding = true → id ≠ other →
    node.rank policy < otherNode.rank policy ∨ otherNode.rank policy < node.rank policy

/-! ## What the decisions found -/

namespace AtRest

/-- The pass keeps the bound on the forwarders, and it keeps the forwarders. -/
theorem forwarders_le_optimalForwarders (h : room.AtRest policy) :
    room.forwarders ≤ optimalForwarders room.nodes.size := by
  have hfew := (withinCap_rebalance policy room).few
  rw [Room.forwarders, h.nodes_rebalance] at hfew
  exact hfew

section

variable (h : room.AtRest policy) (hsize : 2 ≤ room.nodes.size)

include h hsize

/-- The nodes that forward are the nodes that would be admitted. -/
theorem isForwarding_iff (hget : room.nodes.get? id = some node) :
    node.role.isForwarding = true ↔
      node.isEligible policy = true ∧
        pressure policy room id (node.rank policy) < optimalForwarders room.nodes.size := by
  rw [h.role_eq hget, decision_isForwarding_iff]
  simp [hsize]

theorem isEligible (hget : room.nodes.get? id = some node) (hrole : node.role.isForwarding = true) :
    node.isEligible policy = true :=
  ((h.isForwarding_iff hsize hget).1 hrole).1

/-- A forwarder found a place. -/
theorem pressure_lt (hget : room.nodes.get? id = some node)
    (hrole : node.role.isForwarding = true) :
    pressure policy room id (node.rank policy) < optimalForwarders room.nodes.size :=
  ((h.isForwarding_iff hsize hget).1 hrole).2

theorem forwarders_le_eligibles : room.forwarders ≤ room.eligibles policy := by
  apply List.countP_mono_left
  intro node hmem hrole
  obtain ⟨id, hget⟩ := Table.mem_values.1 hmem
  exact h.isEligible hsize hget hrole

/-- A forwarder that a waiting node outranks found a place beside that node's claim, so not every
place is taken. -/
theorem forwarders_lt (hget : room.nodes.get? id = some node)
    (hrole : node.role.isForwarding = true) (hother : room.nodes.get? other = some otherNode)
    (hwaits : otherNode.waits policy = true) (hlt : node.rank policy < otherNode.rank policy) :
    room.forwarders < optimalForwarders room.nodes.size := by
  obtain ⟨helig, hidle⟩ := Node.waits_iff.1 hwaits
  have hne : other ≠ id := by
    rintro rfl
    rw [hget] at hother
    rw [Option.some.inj hother, hidle] at hrole
    cases hrole
  have hclaims : outranks policy (node.rank policy) otherNode = true := by
    simp [outranks, helig, hlt]
  have hcount : room.countOthers id (fun _ found => outranks policy (node.rank policy) found) =
      room.countOthers other (fun name found =>
        decide (name ≠ id) && outranks policy (node.rank policy) found) + 1 := by
    rw [countOthers_eq hother hne, if_pos hclaims]
  have hpressure := h.pressure_lt hsize hget hrole
  have hsplit := forwarders_eq hget
  simp only [hrole, if_true] at hsplit
  unfold pressure at hpressure
  omega

variable (horder : Scalar.Orders (room.ranks policy))

include horder

/-- If some node waits, then one that no other waiting node outranks, and it found no place. -/
theorem exists_waiting
    (hsome : ∃ id node, room.nodes.get? id = some node ∧ node.waits policy = true) :
    ∃ id node, room.nodes.get? id = some node ∧ node.waits policy = true ∧
      (∀ other otherNode, room.nodes.get? other = some otherNode →
        otherNode.waits policy = true → ¬node.rank policy < otherNode.rank policy) ∧
      optimalForwarders room.nodes.size ≤
        room.forwarders +
          room.countOthers id (fun _ other => outranks policy (node.rank policy) other) := by
  obtain ⟨id, node, hget, hwaits, htop⟩ :=
    exists_top_node horder (fun _ => mem_ranks_of_mem_values) hsome
  refine ⟨id, node, hget, hwaits, htop, ?_⟩
  obtain ⟨helig, hrole⟩ := Node.waits_iff.1 hwaits
  have hrefused :
      ¬pressure policy room id (node.rank policy) < optimalForwarders room.nodes.size := by
    intro hlt
    have hforwards := (h.isForwarding_iff hsize hget).2 ⟨helig, hlt⟩
    rw [hrole] at hforwards
    cases hforwards
  have hsplit := forwarders_eq hget
  simp only [hrole, Bool.false_eq_true, if_false] at hsplit
  unfold pressure at hrefused
  omega

/-! ## How many nodes forward -/

/-- Unless every node that passes the gate forwards, at least half of the places are taken: at most
the forwarders outrank the best waiting node. -/
theorem optimalForwarders_le (hless : room.forwarders < room.eligibles policy) :
    optimalForwarders room.nodes.size ≤ 2 * room.forwarders := by
  obtain ⟨id, node, hget, hwaits, htop, hfull⟩ := h.exists_waiting hsize horder (exists_waits hless)
  have hbetter : room.countOthers id (fun _ other => outranks policy (node.rank policy) other) ≤
      room.otherForwarders id := by
    rw [otherForwarders_eq]
    exact countOthers_mono fun other otherNode _ hother => isForwarding_of_outranks htop hother
  have hsplit := forwarders_eq hget
  omega

/-- If no two forwarders rank equal, then at most every second place is taken, rounded up: all other
forwarders outrank the lowest one. -/
theorem twice_forwarders_le (hranks : room.RanksForwarders policy) :
    2 * room.forwarders ≤ optimalForwarders room.nodes.size + 1 := by
  by_cases hrelays : room.Relays
  · obtain ⟨id, node, hget, hrole, hbottom⟩ :=
      exists_bottom_node horder (fun _ => mem_ranks_of_mem_values) hrelays
    have hpressure := h.pressure_lt hsize hget hrole
    have hbetter : room.otherForwarders id ≤
        room.countOthers id (fun _ other => outranks policy (node.rank policy) other) := by
      rw [otherForwarders_eq]
      apply countOthers_mono
      intro other otherNode hne hother hotherRole
      have helig := h.isEligible hsize hother hotherRole
      have hnot := hbottom other otherNode hother hotherRole
      have hranked := hranks id node other otherNode hget hother hrole hotherRole (Ne.symm hne)
      have habove : node.rank policy < otherNode.rank policy := hranked.resolve_right hnot
      simp [outranks, helig, habove]
    have hsplit := forwarders_eq hget
    simp only [hrole, if_true] at hsplit
    unfold pressure at hpressure
    omega
  · have hnone := forwarders_eq_zero_of_not_relays hrelays
    omega

/-- As many nodes forward as there are places or nodes that pass the gate, or fewer, but no fewer
than would fill every second place. -/
theorem forwarders_bounds :
    min ((optimalForwarders room.nodes.size + 1) / 2) (room.eligibles policy) ≤ room.forwarders ∧
      room.forwarders ≤ min (optimalForwarders room.nodes.size) (room.eligibles policy) := by
  have hplaces := h.forwarders_le_optimalForwarders
  have helig := h.forwarders_le_eligibles hsize
  by_cases hless : room.forwarders < room.eligibles policy
  · have hhalf := h.optimalForwarders_le hsize horder hless
    omega
  · omega

/-- If no two forwarders rank equal, then every second place is filled, as long as there are nodes
that pass the gate. -/
theorem forwarders_eq_half (hranks : room.RanksForwarders policy) :
    room.forwarders =
      min ((optimalForwarders room.nodes.size + 1) / 2) (room.eligibles policy) := by
  have hbounds := h.forwarders_bounds hsize horder
  have htwice := h.twice_forwarders_le hsize horder hranks
  omega

/-! ## Who waits -/

/-- A waiting node that outranks every forwarder would mean that every place is taken, and that the
forwarders found one nevertheless. -/
theorem exists_not_lt (hget : room.nodes.get? id = some node) (hwaits : node.waits policy = true) :
    ∃ other incumbent, room.nodes.get? other = some incumbent ∧
      incumbent.role.isForwarding = true ∧ ¬incumbent.rank policy < node.rank policy := by
  by_contra hnone
  obtain ⟨top, topNode, htopGet, htopWaits, htop, hfull⟩ :=
    h.exists_waiting hsize horder ⟨id, node, hget, hwaits⟩
  have hbelow : ∀ other incumbent, room.nodes.get? other = some incumbent →
      incumbent.role.isForwarding = true → incumbent.rank policy < topNode.rank policy := by
    intro other incumbent hother hrole
    have hlt : incumbent.rank policy < node.rank policy := by
      by_contra hnot
      exact hnone ⟨other, incumbent, hother, hrole, hnot⟩
    exact horder.lt_of_lt_of_not_lt (mem_ranks hother) (mem_ranks hget) (mem_ranks htopGet) hlt
      (htop id node hget hwaits)
  have hfree : room.countOthers top
      (fun _ other => outranks policy (topNode.rank policy) other) = 0 := by
    apply countOthers_eq_zero
    intro other otherNode hother
    by_contra houtranks
    rw [Bool.not_eq_false] at houtranks
    have hrole := isForwarding_of_outranks htop hother houtranks
    have hlt := hbelow other otherNode hother hrole
    have hnot := horder.asymm _ (mem_ranks hother) _ (mem_ranks htopGet) hlt
    simp [outranks, hnot] at houtranks
  by_cases hrelays : room.Relays
  · obtain ⟨other, incumbent, hother, hrole⟩ := hrelays
    have hlt := hbelow other incumbent hother hrole
    have hplace := h.forwarders_lt hsize hother hrole htopGet htopWaits hlt
    omega
  · have hidle := forwarders_eq_zero_of_not_relays hrelays
    have hplaces := optimalForwarders_pos room.nodes.size
    omega

/-- A room with a node that passes the gate has a relay. -/
theorem relays (hget : room.nodes.get? id = some node) (helig : node.isEligible policy = true) :
    room.Relays := by
  cases hrole : node.role.isForwarding with
  | true => exact ⟨id, node, hget, hrole⟩
  | false =>
    have hwaits := Node.waits_iff.2 ⟨helig, hrole⟩
    obtain ⟨other, incumbent, hother, hforwards, -⟩ := h.exists_not_lt hsize horder hget hwaits
    exact ⟨other, incumbent, hother, hforwards⟩

end

end AtRest

end Room

/-! ## The pass of the hub -/

namespace Hub

variable {α : Type} [Scalar α] {hub after : Hub α} {roomId : String} {room : Room α}

/-- A pass that reports no changes found the room at rest, and leaves the nodes as they are. -/
theorem atRest_of_rebalance (hroom : hub.rooms.get? roomId = some room)
    (hquiet : hub.rebalance roomId = .ok ([], after)) :
    room.AtRest hub.policy ∧
      ∃ roomAfter, after.rooms.get? roomId = some roomAfter ∧ roomAfter.nodes = room.nodes := by
  rw [rebalance_of_get? hroom] at hquiet
  obtain ⟨hchanges, hafter⟩ := Prod.mk.inj (Except.ok.inj hquiet)
  have hrest : room.AtRest hub.policy := Room.rebalance_eq_nil_iff.1 hchanges
  refine ⟨hrest, (room.rebalance hub.policy).2, ?_, hrest.nodes_rebalance⟩
  rw [← hafter, get?_withRoom_self]

theorem rebalance_of_quiet (hroom : hub.rooms.get? roomId = some room)
    (hchanges : (room.rebalance hub.policy).1 = []) :
    hub.rebalance roomId = .ok ([], hub.withRoom roomId (room.rebalance hub.policy).2) := by
  rw [rebalance_of_get? hroom, ← hchanges]

/-- The number of forwarders in a room of at least two nodes over which a pass reports no changes.
They fill every second place at least and every place at most, as far as there are nodes that pass
the gate.  So the places are filled in a room that has one place only, but in a larger room they are
not: if no two forwarders rank equal, then no more than every second place is filled. -/
theorem forwarders_of_quiet_rebalance (hroom : hub.rooms.get? roomId = some room)
    (hsize : 2 ≤ room.nodes.size) (horder : Scalar.Orders (room.ranks hub.policy))
    (hquiet : hub.rebalance roomId = .ok ([], after)) :
    ∃ roomAfter, after.rooms.get? roomId = some roomAfter ∧ roomAfter.nodes = room.nodes ∧
      min ((optimalForwarders room.nodes.size + 1) / 2) (room.eligibles hub.policy) ≤
        roomAfter.forwarders ∧
      roomAfter.forwarders ≤ min (optimalForwarders room.nodes.size) (room.eligibles hub.policy) ∧
      (room.nodes.size < 10 → roomAfter.forwarders =
        min (optimalForwarders room.nodes.size) (room.eligibles hub.policy)) ∧
      (room.RanksForwarders hub.policy → roomAfter.forwarders =
        min ((optimalForwarders room.nodes.size + 1) / 2) (room.eligibles hub.policy)) := by
  obtain ⟨hrest, roomAfter, hafter, hnodes⟩ := atRest_of_rebalance hroom hquiet
  have hsame : roomAfter.forwarders = room.forwarders := by
    rw [Room.forwarders, hnodes, Room.forwarders]
  obtain ⟨hlower, hupper⟩ := hrest.forwarders_bounds hsize horder
  refine ⟨roomAfter, hafter, hnodes, ?_⟩
  rw [hsame]
  refine ⟨hlower, hupper, fun hsmall => ?_, hrest.forwarders_eq_half hsize horder⟩
  have hplaces : optimalForwarders room.nodes.size = 1 := by
    unfold optimalForwarders
    omega
  omega

/-- Ten nodes with the same report, of which one forwards. -/
def reluctant : Room Float where
  nodes := Table.ofList [("a", willing .forwarder 0), ("b", willing .receiver 0),
    ("c", willing .receiver 0), ("d", willing .receiver 0), ("e", willing .receiver 0),
    ("f", willing .receiver 0), ("g", willing .receiver 0), ("h", willing .receiver 0),
    ("i", willing .receiver 0), ("j", willing .receiver 0)]

theorem get?_reluctant :
    ((Hub.new Policy.standard).withRoom "r" reluctant).rooms.get? "r" = some reluctant :=
  get?_withRoom_self ..

theorem orders_reluctant : Scalar.Orders (reluctant.ranks Policy.standard) := by
  constructor
  · decide +kernel
  · decide +kernel

theorem quiet_reluctant : (reluctant.rebalance Policy.standard).1 = [] := by decide +kernel

theorem optimalForwarders_reluctant : optimalForwarders reluctant.nodes.size = 2 := by decide

theorem eligibles_reluctant : reluctant.eligibles Policy.standard = 10 := by decide +kernel

/-- The forwarder fills every second place. -/
theorem forwarders_of_reluctant :
    ((Hub.new Policy.standard).withRoom "r" reluctant).rooms.get? "r" = some reluctant ∧
      2 ≤ reluctant.nodes.size ∧
      Scalar.Orders (reluctant.ranks Policy.standard) ∧
      reluctant.RanksForwarders Policy.standard ∧
      ∃ after roomAfter,
        ((Hub.new Policy.standard).withRoom "r" reluctant).rebalance "r" = .ok ([], after) ∧
          after.rooms.get? "r" = some roomAfter ∧
          roomAfter.forwarders = 1 := by
  have hsize : 2 ≤ reluctant.nodes.size := by decide
  have hranks : reluctant.RanksForwarders Policy.standard := by
    have honly : ∀ entry ∈ reluctant.nodes.entries,
        entry.2.role.isForwarding = true → entry.1 = "a" := by decide
    intro id node other otherNode hget hother hrole hotherRole hne
    have hid := honly (id, node) ((Table.mem_entries_iff ..).2 hget) hrole
    have hotherId := honly (other, otherNode) ((Table.mem_entries_iff ..).2 hother) hotherRole
    exact absurd (hid.trans hotherId.symm) hne
  have hquiet := rebalance_of_quiet get?_reluctant quiet_reluctant
  obtain ⟨roomAfter, hafter, -, -, -, -, hhalf⟩ :=
    forwarders_of_quiet_rebalance get?_reluctant hsize orders_reluctant hquiet
  have hone : roomAfter.forwarders = min ((optimalForwarders reluctant.nodes.size + 1) / 2)
      (reluctant.eligibles Policy.standard) := hhalf hranks
  rw [optimalForwarders_reluctant, eligibles_reluctant] at hone
  exact ⟨get?_reluctant, hsize, orders_reluctant, hranks, _, roomAfter, hquiet, hafter, hone⟩

/-- The other place stays free, although nine more nodes pass the gate: the room would have to have
a second forwarder if passes filled the places. -/
theorem places_free_in_reluctant :
    ((Hub.new Policy.standard).withRoom "r" reluctant).rooms.get? "r" = some reluctant ∧
      2 ≤ reluctant.nodes.size ∧
      ¬(Policy.standard : Policy Float).incumbentBonus < 0 ∧
      Scalar.Orders (reluctant.ranks Policy.standard) ∧
      ∃ after roomAfter,
        ((Hub.new Policy.standard).withRoom "r" reluctant).rebalance "r" = .ok ([], after) ∧
          after.rooms.get? "r" = some roomAfter ∧
          roomAfter.forwarders ≠
            min (optimalForwarders reluctant.nodes.size) (reluctant.eligibles Policy.standard) := by
  have hquiet := rebalance_of_quiet get?_reluctant quiet_reluctant
  obtain ⟨-, roomAfter, hafter, hnodes⟩ := atRest_of_rebalance get?_reluctant hquiet
  have hone : roomAfter.forwarders = 1 := by
    rw [Room.forwarders, hnodes]
    decide
  refine ⟨get?_reluctant, by decide, by decide +kernel, orders_reluctant, _, roomAfter, hquiet,
    hafter, ?_⟩
  rw [hone, optimalForwarders_reluctant, eligibles_reluctant]
  decide

/-- A room of at least two nodes over which a pass reports no changes passes over no receiver that
passes the gate and has a greater score than every forwarder with its incumbent bonus.  In
particular it has a relay if some node passes the gate. -/
theorem receivers_of_quiet_rebalance (hroom : hub.rooms.get? roomId = some room)
    (hsize : 2 ≤ room.nodes.size) (horder : Scalar.Orders (room.ranks hub.policy))
    (hquiet : hub.rebalance roomId = .ok ([], after)) :
    ∃ roomAfter, after.rooms.get? roomId = some roomAfter ∧ roomAfter.nodes = room.nodes ∧
      (¬∃ id node, roomAfter.nodes.get? id = some node ∧ node.role = .receiver ∧
        node.isEligible hub.policy = true ∧
        ∀ other incumbent, roomAfter.nodes.get? other = some incumbent →
          incumbent.role.isForwarding = true →
          incumbent.score hub.policy + hub.policy.incumbentBonus < node.score hub.policy) ∧
      ((∃ id node, roomAfter.nodes.get? id = some node ∧ node.isEligible hub.policy = true) →
        roomAfter.Relays) := by
  obtain ⟨hrest, roomAfter, hafter, hnodes⟩ := atRest_of_rebalance hroom hquiet
  refine ⟨roomAfter, hafter, hnodes, ?_, ?_⟩
  · rw [hnodes]
    rintro ⟨id, node, hget, hreceiver, helig, habove⟩
    have hidle : node.role.isForwarding = false := by
      rw [hreceiver]
      rfl
    obtain ⟨other, incumbent, hother, hrole, hnot⟩ :=
      hrest.exists_not_lt hsize horder hget (Node.waits_iff.2 ⟨helig, hidle⟩)
    rw [Node.rank_of_isForwarding hrole, Node.rank_of_not_isForwarding hidle] at hnot
    exact hnot (habove other incumbent hother hrole)
  · rintro ⟨id, node, hget, helig⟩
    rw [hnodes] at hget
    obtain ⟨other, incumbent, hother, hrole⟩ := hrest.relays hsize horder hget helig
    exact ⟨other, incumbent, by rw [hnodes, hother], hrole⟩

/-- The second node forwards, and the score of the first one exceeds its score by less than the
incumbent bonus. -/
def tolerant : Room Float where
  nodes := Table.ofList [("a", willing .receiver 1.2), ("b", willing .forwarder 1)]

/-- The first node has the greater score and waits, and it does not stand above the forwarder with
its bonus. -/
theorem receivers_of_tolerant :
    ((Hub.new Policy.standard).withRoom "r" tolerant).rooms.get? "r" = some tolerant ∧
      2 ≤ tolerant.nodes.size ∧
      Scalar.Orders (tolerant.ranks Policy.standard) ∧
      (willing .forwarder 1).score Policy.standard < (willing .receiver 1.2).score Policy.standard ∧
      ∃ after roomAfter,
        ((Hub.new Policy.standard).withRoom "r" tolerant).rebalance "r" = .ok ([], after) ∧
          after.rooms.get? "r" = some roomAfter ∧ roomAfter.nodes = tolerant.nodes ∧
          (¬∃ id node, roomAfter.nodes.get? id = some node ∧ node.role = .receiver ∧
            node.isEligible Policy.standard = true ∧
            ∀ other incumbent, roomAfter.nodes.get? other = some incumbent →
              incumbent.role.isForwarding = true →
              incumbent.score Policy.standard + Policy.standard.incumbentBonus <
                node.score Policy.standard) ∧
          roomAfter.Relays := by
  have hroom :
      ((Hub.new Policy.standard).withRoom "r" tolerant).rooms.get? "r" = some tolerant :=
    get?_withRoom_self ..
  have hsize : 2 ≤ tolerant.nodes.size := by decide
  have horder : Scalar.Orders (tolerant.ranks Policy.standard) := by
    constructor
    · decide +kernel
    · decide +kernel
  have hquiet := rebalance_of_quiet hroom
    (show (tolerant.rebalance Policy.standard).1 = [] by decide +kernel)
  obtain ⟨roomAfter, hafter, hnodes, hnone, hrelays⟩ :=
    receivers_of_quiet_rebalance hroom hsize horder hquiet
  have hget : roomAfter.nodes.get? "a" = some (willing .receiver 1.2) := by
    rw [hnodes]
    rfl
  have helig : (willing .receiver 1.2).isEligible Policy.standard = true := by decide +kernel
  exact ⟨hroom, hsize, horder, by decide +kernel, _, roomAfter, hquiet, hafter, hnodes, hnone,
    hrelays ⟨"a", _, hget, helig⟩⟩

end Hub

end RelayMesh

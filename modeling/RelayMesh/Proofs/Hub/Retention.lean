import RelayMesh.Proofs.Hub.Nodes
import RelayMesh.Proofs.Hub.Vacancy

/-!
# When a forwarder keeps its role

The incumbent bonus protects a forwarder from the receivers: none of them takes
its place unless its score is greater than the forwarder's with the bonus
(`Room.Unchallenged`).  It does not protect the forwarders from each other,
because they all have it.  Another forwarder that ranks higher takes one place,
and it comes first at one of the places that are left, so it counts twice.

* `pressure_of_unchallenged` adds this up: the pressure on an unchallenged
  forwarder is the number of the other forwarders plus the number of those of
  them that rank higher, its `Room.rivals`.
* `evaluate_keeps_incumbent_iff` is the exact condition for a forwarder to keep
  its role.  It always holds where there is one place, and it can fail where
  there are two.
-/

namespace RelayMesh

namespace Room

variable {α : Type} [Scalar α] {room : Room α} {policy : Policy α} {id : String} {node : Node α}
  {bar : α}

/-- Every node that forwards passes the gate. -/
def ForwardersEligible (policy : Policy α) (room : Room α) : Prop :=
  ∀ node ∈ room.nodes.values, node.role.isForwarding = true → node.isEligible policy = true

/-- No receiver that passes the gate has a score above that of a node with the incumbent bonus. -/
def Unchallenged (policy : Policy α) (room : Room α) (node : Node α) : Prop :=
  ∀ other ∈ room.nodes.values, other.role = .receiver → other.isEligible policy = true →
    ¬node.score policy + policy.incumbentBonus < other.score policy

instance : Decidable (ForwardersEligible policy room) :=
  inferInstanceAs (Decidable (∀ node ∈ room.nodes.values,
    node.role.isForwarding = true → node.isEligible policy = true))

instance : Decidable (Unchallenged policy room node) :=
  inferInstanceAs (Decidable (∀ other ∈ room.nodes.values, other.role = .receiver →
    other.isEligible policy = true →
      ¬node.score policy + policy.incumbentBonus < other.score policy))

/-- How many nodes other than one forward and rank above a bar. -/
def rivals (policy : Policy α) (room : Room α) (id : String) (bar : α) : Nat :=
  room.countOthers id (fun _ other => other.role.isForwarding && decide (bar < other.rank policy))

theorem rivals_le (policy : Policy α) (room : Room α) (id : String) (bar : α) :
    rivals policy room id bar ≤ room.otherForwarders id := by
  rw [otherForwarders_eq]
  apply countOthers_mono
  intro other node _ _ htest
  exact (Bool.and_eq_true_iff.1 htest).1

/-- The other nodes that outrank an unchallenged forwarder are forwarders themselves. -/
theorem pressure_of_unchallenged (heligible : ForwardersEligible policy room)
    (hunchallenged : Unchallenged policy room node) (hrole : node.role.isForwarding = true) :
    pressure policy room id (node.rank policy) =
      room.otherForwarders id + rivals policy room id (node.rank policy) := by
  have houtranks : ∀ name other, name ≠ id → room.nodes.get? name = some other →
      outranks policy (node.rank policy) other =
        (other.role.isForwarding && decide (node.rank policy < other.rank policy)) := by
    intro name other _ hother
    have hvalue : other ∈ room.nodes.values := Table.mem_values.2 ⟨name, hother⟩
    cases hforwards : other.role.isForwarding with
    | true => rw [outranks, heligible other hvalue hforwards]
    | false =>
      have hreceiver : other.role = .receiver := by
        cases hcase : other.role <;> simp_all [Role.isForwarding]
      rw [Bool.false_and, outranks, Bool.and_eq_false_imp, Node.rank_of_isForwarding hrole,
        Node.rank_of_not_isForwarding hforwards]
      intro heligibleOther
      exact decide_eq_false (hunchallenged other hvalue hreceiver heligibleOther)
  rw [pressure, countOthers_congr houtranks, rivals]

end Room

/-! ## The evaluation of the hub -/

namespace Hub

variable {α : Type} [Scalar α]

/-- Evaluating a forwarder again, in a room of at least two nodes in which the forwarders are within
the quota and pass the gate, while no receiver that passes the gate has a score above that of the
forwarder with its incumbent bonus.  The forwarder keeps a forwarding role exactly when the other
forwarders and its rivals among them, counted together, are fewer than the places.  So it keeps the
role if it has no rivals, if the room has fewer than ten nodes, and if the forwarders take no more
than every second place. -/
theorem evaluate_keeps_incumbent_iff {hub : Hub α} {roomId nodeId : String} {room : Room α}
    {node : Node α} (hroom : hub.rooms.get? roomId = some room) (hsize : 2 ≤ room.nodes.size)
    (hquota : room.forwarders ≤ optimalForwarders room.nodes.size)
    (heligible : Room.ForwardersEligible hub.policy room)
    (hnode : room.nodes.get? nodeId = some node) (hrole : node.role.isForwarding = true)
    (hunchallenged : Room.Unchallenged hub.policy room node) :
    ∃ kept after nodeAfter,
      hub.evaluate roomId nodeId = .ok (kept, hub.withRoom roomId after) ∧
        after.nodes.get? nodeId = some nodeAfter ∧ nodeAfter.role = kept.role ∧
        (nodeAfter.role.isForwarding = true ↔
          room.otherForwarders nodeId +
              Room.rivals hub.policy room nodeId (node.rank hub.policy) <
            optimalForwarders room.nodes.size) ∧
        (Room.rivals hub.policy room nodeId (node.rank hub.policy) = 0 →
          nodeAfter.role.isForwarding = true) ∧
        (room.nodes.size < 10 → nodeAfter.role.isForwarding = true) ∧
        (2 * room.forwarders ≤ optimalForwarders room.nodes.size + 1 →
          nodeAfter.role.isForwarding = true) := by
  have hkeeps : (room.decision hub.policy nodeId node).role.isForwarding = true ↔
      room.otherForwarders nodeId + Room.rivals hub.policy room nodeId (node.rank hub.policy) <
        optimalForwarders room.nodes.size := by
    rw [Room.decision_isForwarding_iff,
      Room.pressure_of_unchallenged heligible hunchallenged hrole]
    have hgate := heligible node (Table.mem_values.2 ⟨nodeId, hnode⟩) hrole
    exact ⟨fun h => h.2.2, fun h => ⟨hgate, hsize, h⟩⟩
  have hrivals := Room.rivals_le hub.policy room nodeId (node.rank hub.policy)
  have hforwarders := Room.forwarders_eq hnode
  rw [if_pos hrole] at hforwarders
  refine ⟨_, _, _, evaluate_of_get? hroom hnode, Room.get?_decided_self .., rfl, hkeeps,
    fun hnone => hkeeps.2 ?_, fun hsmall => hkeeps.2 ?_, fun hhalf => hkeeps.2 ?_⟩
  · omega
  · have hplaces : optimalForwarders room.nodes.size = 1 := by
      unfold optimalForwarders
      omega
    omega
  · omega

/-- Ten nodes, of which two forward, and the first of these has more bandwidth than the others. -/
def rivalry : Room Float where
  nodes := Table.ofList [("a", willing .forwarder 2), ("b", willing .forwarder 0),
    ("c", willing .receiver 0), ("d", willing .receiver 0), ("e", willing .receiver 0),
    ("f", willing .receiver 0), ("g", willing .receiver 0), ("h", willing .receiver 0),
    ("i", willing .receiver 0), ("j", willing .receiver 0)]

theorem get?_rivalry :
    ((Hub.new Policy.standard).withRoom "r" rivalry).rooms.get? "r" = some rivalry :=
  get?_withRoom_self ..

theorem forwarders_rivalry : rivalry.forwarders ≤ optimalForwarders rivalry.nodes.size := by decide

theorem forwardersEligible_rivalry : Room.ForwardersEligible Policy.standard rivalry := by
  decide +kernel

/-- The first forwarder has no rivals and stays. -/
theorem evaluate_keeps_incumbent_in_rivalry :
    ((Hub.new Policy.standard).withRoom "r" rivalry).rooms.get? "r" = some rivalry ∧
      2 ≤ rivalry.nodes.size ∧
      rivalry.forwarders ≤ optimalForwarders rivalry.nodes.size ∧
      Room.ForwardersEligible Policy.standard rivalry ∧
      rivalry.nodes.get? "a" = some (willing .forwarder 2) ∧
      Room.Unchallenged Policy.standard rivalry (willing .forwarder 2) ∧
      ∃ kept after nodeAfter,
        ((Hub.new Policy.standard).withRoom "r" rivalry).evaluate "r" "a" =
            .ok (kept, ((Hub.new Policy.standard).withRoom "r" rivalry).withRoom "r" after) ∧
          after.nodes.get? "a" = some nodeAfter ∧ nodeAfter.role.isForwarding = true := by
  have hsize : 2 ≤ rivalry.nodes.size := by decide
  have hnode : rivalry.nodes.get? "a" = some (willing .forwarder 2) := by rfl
  have hunchallenged : Room.Unchallenged Policy.standard rivalry (willing .forwarder 2) := by
    decide +kernel
  have hnone : Room.rivals Policy.standard rivalry "a"
      ((willing .forwarder 2).rank Policy.standard) = 0 := by decide +kernel
  obtain ⟨kept, after, nodeAfter, hevaluate, hafter, -, -, hkeeps, -, -⟩ :=
    evaluate_keeps_incumbent_iff get?_rivalry hsize forwarders_rivalry forwardersEligible_rivalry
      hnode rfl hunchallenged
  exact ⟨get?_rivalry, hsize, forwarders_rivalry, forwardersEligible_rivalry, hnode, hunchallenged,
    kept, after, nodeAfter, hevaluate, hafter, hkeeps hnone⟩

/-- The second forwarder is demoted, although no receiver has a score above its own: the first one
takes one of the two places and comes first at the other. -/
theorem incumbent_demoted_in_rivalry :
    ((Hub.new Policy.standard).withRoom "r" rivalry).rooms.get? "r" = some rivalry ∧
      2 ≤ rivalry.nodes.size ∧
      rivalry.forwarders ≤ optimalForwarders rivalry.nodes.size ∧
      Room.ForwardersEligible Policy.standard rivalry ∧
      rivalry.nodes.get? "b" = some (willing .forwarder 0) ∧
      Room.Unchallenged Policy.standard rivalry (willing .forwarder 0) ∧
      ¬(Policy.standard : Policy Float).incumbentBonus < 0 ∧
      (∀ node ∈ rivalry.nodes.values, node.load.bandwidth.isNaN = false ∧
        node.load.cpuPercent.isNaN = false ∧ node.load.memoryPercent.isNaN = false ∧
        node.load.lossPercent.isNaN = false) ∧
      ∃ after nodeAfter,
        ((Hub.new Policy.standard).withRoom "r" rivalry).evaluate "r" "b" =
            .ok (.receiver, ((Hub.new Policy.standard).withRoom "r" rivalry).withRoom "r" after) ∧
          after.nodes.get? "b" = some nodeAfter ∧ nodeAfter.role = .receiver := by
  have hnode : rivalry.nodes.get? "b" = some (willing .forwarder 0) := by rfl
  have hdecision : rivalry.decision Policy.standard "b" (willing .forwarder 0) = .receiver := by
    decide +kernel
  have hevaluate : ((Hub.new Policy.standard).withRoom "r" rivalry).evaluate "r" "b" =
      .ok (rivalry.decision Policy.standard "b" (willing .forwarder 0),
        ((Hub.new Policy.standard).withRoom "r" rivalry).withRoom "r"
          (rivalry.decided Policy.standard "b" (willing .forwarder 0))) :=
    evaluate_of_get? get?_rivalry hnode
  have hafter : (rivalry.decided Policy.standard "b" (willing .forwarder 0)).nodes.get? "b" =
      some ((willing .forwarder 0).assign
        (rivalry.decision Policy.standard "b" (willing .forwarder 0)).role
        (rivalry.decision Policy.standard "b" (willing .forwarder 0)).streamIds) :=
    Room.get?_decided_self ..
  rw [hdecision] at hevaluate hafter
  exact ⟨get?_rivalry, by decide, forwarders_rivalry, forwardersEligible_rivalry, hnode,
    by decide +kernel, by decide +kernel, by decide +kernel, _, _, hevaluate, hafter, rfl⟩

end Hub

end RelayMesh

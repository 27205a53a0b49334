import RelayMesh.Proofs.Hub.Nodes
import RelayMesh.Proofs.Hub.Settling
import RelayMesh.Proofs.Room.Assigning
import RelayMesh.Proofs.Selection.Worsening

/-!
# Decisions that are made again

A decision about a node changes the node, and the next decision about it sees
the change.  It is the same decision all the same.

* What a decision reads of the other nodes is not changed by what happens to the
  node itself (`others_nodeViews_congr`).
* `admitted_decided` and `rejected_decided`: an admitted node ranks at least as
  high as before, and a rejected one no higher, so neither the bonus that is
  gained nor the bonus that is lost turns the decision around.
* `decision_decided` puts them together, and `decided_decided` adds that nothing
  is left to carry out.  `Hub.evaluate_twice` is the result.

The last part compares two reports of a node: after the heavier one it gets what
it gets after the other one, or nothing.
-/

namespace RelayMesh

/-! ## Choices that see the same other nodes -/

namespace Selection

variable {α : Type} {policy : Policy α} {candidate : NodeView α} {nodes after : List (NodeView α)}
  {streams : List StreamInfo}

/-- The streams for a candidate depend on who it is, what it is able to do and what the others
relay. -/
theorem streamsFor_congr {changed : NodeView α}
    (hothers : others after changed = others nodes candidate) (hid : changed.id = candidate.id)
    (hcapabilities : changed.capabilities = candidate.capabilities) :
    streamsFor policy changed after streams = streamsFor policy candidate nodes streams := by
  have hcoverage : coverage after changed = coverage nodes candidate := by
    funext stream
    rw [coverage, hothers, coverage]
  have hlimit : policy.streamLimit changed = policy.streamLimit candidate := by
    rw [Policy.streamLimit, hcapabilities, Policy.streamLimit]
  rw [streamsFor, hcoverage, hlimit, hid, streamsFor]

/-- A choice sees nothing of the list of nodes but the others and the length. -/
theorem choose_congr [Scalar α] (hothers : others after candidate = others nodes candidate)
    (hlength : after.length = nodes.length) :
    choose policy candidate after streams = choose policy candidate nodes streams := by
  have hadmits : admits policy after candidate = admits policy nodes candidate := by
    rw [admits, forwarderCount, betterCount, hothers, hlength, admits, forwarderCount, betterCount]
  rw [choose, hadmits, streamsFor_congr hothers rfl rfl, choose]

end Selection

namespace Room

variable {α : Type} [Scalar α] {room : Room α} {policy : Policy α} {scores : List α} {id : String}
  {node : Node α}

omit [Scalar α] in
theorem others_nodeViews (room : Room α) (id : String) (node : Node α) :
    Selection.others (room.nodeViews "") (node.view id "") =
      (room.nodes.erase id).entries.map (fun entry => entry.2.view entry.1 "") := by
  have herase : (room.nodes.erase id).entries =
      room.nodes.entries.filter (fun entry => decide (entry.1 ≠ id)) := by
    apply List.filter_congr
    intro entry _
    exact (decide_not ..).symm
  rw [Selection.others, nodeViews, List.filter_map, herase]
  rfl

omit [Scalar α] in
/-- What is shown of the others does not depend on the node itself. -/
theorem others_nodeViews_congr {after : Room α}
    (h : ∀ other, other ≠ id → after.nodes.get? other = room.nodes.get? other)
    (changed node : Node α) :
    Selection.others (after.nodeViews "") (changed.view id "") =
      Selection.others (room.nodeViews "") (node.view id "") := by
  have hothers : after.nodes.erase id = room.nodes.erase id := by
    apply Table.ext_get?
    intro other
    rw [Table.get?_erase, Table.get?_erase]
    split
    · rfl
    · rename_i hne
      exact h other hne
  rw [others_nodeViews, others_nodeViews, hothers]

/-! ## A second decision -/

/-- A node that has been turned down is turned down again.  It may have lost the bonus, which does
not help it. -/
theorem rejected_decided (horder : policy.OrdersScores scores)
    (hscored : room.ScoredBy policy scores) (hget : room.nodes.get? id = some node)
    (hrejected : (room.decision policy id node).role.isForwarding = false) :
    ((room.decided policy id node).decision policy id
        (node.assign (room.decision policy id node).role
          (room.decision policy id node).streamIds)).role.isForwarding = false := by
  rw [Bool.eq_false_iff] at hrejected ⊢
  intro hagain
  obtain ⟨helig, hsize, hpressure⟩ := decision_isForwarding_iff.1 hagain
  rw [size_decided hget] at hsize hpressure
  have hidle : (node.assign (room.decision policy id node).role
      (room.decision policy id node).streamIds).role.isForwarding = false :=
    Bool.eq_false_iff.2 hrejected
  rw [decided, pressure_assigned_self, Node.rank_of_not_isForwarding hidle,
    Node.score_assign] at hpressure
  exact hrejected (decision_isForwarding_iff.2 ⟨helig, hsize,
    Nat.lt_of_le_of_lt (pressure_rank_le_score horder hscored hget) hpressure⟩)

theorem admitted_decided (horder : policy.OrdersScores scores)
    (hscored : room.ScoredBy policy scores) (hget : room.nodes.get? id = some node)
    (hadmitted : (room.decision policy id node).role.isForwarding = true) :
    ((room.decided policy id node).decision policy id
        (node.assign (room.decision policy id node).role
          (room.decision policy id node).streamIds)).role.isForwarding = true := by
  obtain ⟨found, hfound, -, hagain⟩ := secure_decided_self horder hscored hget hadmitted
  rw [get?_decided_self] at hfound
  rw [Option.some.inj hfound]
  exact hagain

/-- The second decision about a node is the first one. -/
theorem decision_decided (horder : policy.OrdersScores scores)
    (hscored : room.ScoredBy policy scores) (hget : room.nodes.get? id = some node) :
    (room.decided policy id node).decision policy id
        (node.assign (room.decision policy id node).role
          (room.decision policy id node).streamIds) =
      room.decision policy id node := by
  cases hfirst : (room.decision policy id node).role.isForwarding with
  | false =>
    rw [decision_eq_receiver (rejected_decided horder hscored hget hfirst),
      decision_eq_receiver hfirst]
  | true =>
    have hkeeps : ∀ other, other ≠ id →
        (room.decided policy id node).nodes.get? other = room.nodes.get? other :=
      fun _ hne => get?_decided_of_ne hne
    have hothers := others_nodeViews_congr hkeeps
      (node.assign (room.decision policy id node).role (room.decision policy id node).streamIds)
      node
    rw [decision_eq_relay (admitted_decided horder hscored hget hfirst), streamInfos_decided,
      Selection.streamsFor_congr hothers rfl rfl, decision_eq_relay hfirst]

/-- Nothing is left to carry out. -/
theorem decided_decided (horder : policy.OrdersScores scores)
    (hscored : room.ScoredBy policy scores) (hget : room.nodes.get? id = some node) :
    (room.decided policy id node).decided policy id
        (node.assign (room.decision policy id node).role
          (room.decision policy id node).streamIds) =
      room.decided policy id node := by
  rw [decided, decision_decided horder hscored hget]
  exact assigned_assigned _

/-! ## Two reports -/

variable {load heavier : Load α} {now later : Instant}

/-- Of what a report changes, the decision that follows it sees the load only. -/
theorem decision_reporting (load : Load α) (now : Instant) :
    (room.reporting id load now).decision policy id (node.report load now) =
      Selection.choose policy { node.view id "" with load } (room.nodeViews "")
        room.streamInfos := by
  have hkeeps : ∀ other, other ≠ id →
      (room.reporting id load now).nodes.get? other = room.nodes.get? other :=
    fun _ hne => (Table.get?_modify ..).trans (if_neg hne)
  have hothers := others_nodeViews_congr hkeeps (node.report load now) (node.report load now)
  have hlength : ((room.reporting id load now).nodeViews "").length =
      (room.nodeViews "").length := by
    rw [length_nodeViews, length_nodeViews, reporting, Table.modify, Table.size_map]
  exact Selection.choose_congr hothers hlength

/-- After the heavier one of two reports a node gets what it gets after the other one, or it only
receives. -/
theorem decision_reporting_of_worsens (rounding : Scalar.Rounding α) (h : load.Worsens heavier) :
    (room.reporting id heavier later).decision policy id (node.report heavier later) =
        (room.reporting id load now).decision policy id (node.report load now) ∨
      (room.reporting id heavier later).decision policy id (node.report heavier later) =
        .receiver := by
  rw [decision_reporting, decision_reporting]
  exact Selection.choose_eq_or_eq_receiver rounding policy { node.view id "" with load } _ _ h

end Room

namespace Hub

variable {α : Type} [Scalar α] {hub : Hub α} {roomId nodeId : String} {room : Room α}
  {node : Node α}

/-- Two evaluations of a node in a row give the same assignment.  The second one reports no change
and leaves the room and the hub as the first one left them. -/
theorem evaluate_twice (hroom : hub.rooms.get? roomId = some room)
    (hnode : room.nodes.get? nodeId = some node)
    (horder : hub.policy.OrdersScores (room.scores hub.policy)) :
    ∃ applied,
      room.evaluate hub.policy nodeId = .ok applied ∧
      applied.room.evaluate hub.policy nodeId = .ok { applied with changed := false } ∧
      hub.evaluate roomId nodeId = .ok (applied.kept, hub.withRoom roomId applied.room) ∧
      (hub.withRoom roomId applied.room).evaluate roomId nodeId =
        .ok (applied.kept, hub.withRoom roomId applied.room) := by
  have hscored := room.scoredBy_scores hub.policy
  have hthere := room.get?_decided_self hub.policy nodeId node
  have hdecision := Room.decision_decided horder hscored hnode
  have hdecided := Room.decided_decided horder hscored hnode
  refine ⟨_, Room.evaluate_of_get? hnode, ?_, evaluate_of_get? hroom hnode, ?_⟩
  · rw [Room.evaluate_of_get? hthere, hdecision, hdecided, Node.not_differsFrom_assign]
  · have hagain := evaluate_of_get?
      (get?_withRoom_self hub roomId (room.decided hub.policy nodeId node)) hthere
    rw [hagain, withRoom_withRoom]
    exact congrArg Except.ok (Prod.ext hdecision (congrArg (hub.withRoom roomId) hdecided))

/-- The relay of the room is overtaken by then: the first evaluation turns it down, and the second
one, which sees it without the bonus, does the same. -/
theorem evaluate_twice_contested :
    ((Hub.new Policy.standard).withRoom "r" contested).rooms.get? "r" = some contested ∧
      Policy.standard.OrdersScores (contested.scores Policy.standard) ∧
      ∃ applied, contested.evaluate Policy.standard "c" = .ok applied ∧
        applied.changed = true ∧ applied.kept = { role := .receiver, streams := [] } ∧
        applied.room.evaluate Policy.standard "c" = .ok { applied with changed := false } := by
  have hroom :
      ((Hub.new Policy.standard).withRoom "r" contested).rooms.get? "r" = some contested :=
    get?_withRoom_self ..
  have hnode : contested.nodes.get? "c" =
      some { willing .hybrid 0 with relaying := IdSet.ofList ["s"] } := by rfl
  have horder : Policy.standard.OrdersScores (contested.scores Policy.standard) := by
    constructor <;> decide +kernel
  obtain ⟨applied, hfirst, hsecond, -, -⟩ := evaluate_twice hroom hnode horder
  have happlied := Except.ok.inj (hfirst.symm.trans (Room.evaluate_of_get? hnode))
  refine ⟨hroom, horder, applied, hfirst, ?_, ?_, hsecond⟩
  · rw [happlied]
    decide +kernel
  · rw [happlied]
    decide +kernel

/-- A node that reports a heavier load is answered with what it would have been answered without
it, or with the role of a receiver. -/
theorem report_of_worsens (rounding : Scalar.Rounding α) {load heavier : Load α}
    {now later : Instant} (hroom : hub.rooms.get? roomId = some room)
    (hnode : room.nodes.get? nodeId = some node) (h : load.Worsens heavier) :
    ∃ given lessened after after',
      hub.report roomId nodeId load now = .ok (given, after) ∧
      hub.report roomId nodeId heavier later = .ok (lessened, after') ∧
      (lessened = given ∨ lessened = .receiver) := by
  have hreport : ∀ (load : Load α) (now : Instant), hub.report roomId nodeId load now =
      .ok ((room.reporting nodeId load now).decision hub.policy nodeId (node.report load now),
        (hub.withRoom roomId (room.reporting nodeId load now)).withRoom roomId
          ((room.reporting nodeId load now).decided hub.policy nodeId (node.report load now))) := by
    intro load now
    rw [report_of_get? hroom hnode]
    exact evaluate_of_get? (get?_withRoom_self ..) (Room.get?_nodes_reporting hnode)
  exact ⟨_, _, _, _, hreport load now, hreport heavier later,
    Room.decision_reporting_of_worsens rounding h⟩

end Hub

end RelayMesh

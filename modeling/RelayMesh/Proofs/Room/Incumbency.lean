import RelayMesh.Proofs.Room.Admission
import RelayMesh.Proofs.Room.Pass

/-!
# Relays that stay

A node that forwards ranks higher by the incumbent bonus.  This file shows
what the bonus is good for: once a node has been admitted, only the promotion
of a node with a greater score can cost it its role.

* `Room.Secure` says that a node forwards and would be admitted again.
* `secure_decided_self` and `Secure.decided` are the two halves of a step: who
  is admitted is secure, and a decision about another node keeps a node secure
  unless it promotes a node with a greater score.
* `SparesBelow` says that the rest of a pass promotes no node with a greater
  score.  `Secure.evaluateAll` and `secure_of_forwards_evaluateAll` carry the
  two halves through such a pass.
* `secure_rebalance` is the result: it asks that the nodes with greater scores
  keep their roles.
-/

namespace RelayMesh

namespace Room

variable {α : Type} [Scalar α] {room : Room α} {policy : Policy α} {scores : List α}
  {id other : String} {node otherNode : Node α} {ids : List String} {bar : α}

/-! ## Scores and ranks -/

/-- The score of a node. -/
def score? (policy : Policy α) (room : Room α) (id : String) : Option α :=
  (room.nodes.get? id).map (fun node => node.score policy)

theorem score?_of_get? (hget : room.nodes.get? id = some node) :
    score? policy room id = some (node.score policy) := by
  rw [score?, hget]
  rfl

theorem get?_of_score? {score : α} (h : score? policy room id = some score) :
    ∃ node, room.nodes.get? id = some node ∧ node.score policy = score :=
  Option.map_eq_some_iff.1 h

/-- A decision changes no score. -/
theorem score?_decided (hother : room.nodes.get? other = some otherNode) :
    score? policy (room.decided policy other otherNode) id = score? policy room id := by
  unfold score?
  rw [get?_decided]
  split
  · rename_i heq
    rw [heq, hother]
    rfl
  · rfl

/-- The scores of the nodes are among some scores. -/
def ScoredBy (policy : Policy α) (scores : List α) (room : Room α) : Prop :=
  ∀ id node, room.nodes.get? id = some node → node.score policy ∈ scores

theorem scoredBy_scores (room : Room α) (policy : Policy α) :
    room.ScoredBy policy (room.scores policy) :=
  fun _ _ hget => score_mem_scores hget

theorem ScoredBy.of_score? {after : Room α} (h : room.ScoredBy policy scores)
    (hsame : ∀ id, score? policy after id = score? policy room id) :
    after.ScoredBy policy scores := by
  intro id found hfound
  obtain ⟨node, hget, hscore⟩ := get?_of_score? ((hsame id).symm.trans (score?_of_get? hfound))
  rw [← hscore]
  exact h id node hget

theorem rank_mem_ranks (h : node.score policy ∈ scores) :
    node.rank policy ∈ policy.ranks scores := by
  cases hrole : node.role.isForwarding with
  | true =>
    rw [Node.rank_of_isForwarding hrole]
    exact Policy.raise_mem_ranks h
  | false =>
    rw [Node.rank_of_not_isForwarding hrole]
    exact Policy.mem_ranks h

/-- A node never ranks below its score. -/
theorem lt_rank_of_lt_score (horder : policy.OrdersScores scores)
    (h : node.score policy ∈ scores) (hbar : bar ∈ policy.ranks scores)
    (hlt : bar < node.score policy) : bar < node.rank policy := by
  cases hrole : node.role.isForwarding with
  | true =>
    rw [Node.rank_of_isForwarding hrole]
    exact horder.orders.lt_of_lt_of_not_lt hbar (Policy.mem_ranks h) (Policy.raise_mem_ranks h) hlt
      (horder.le_raise _ h)
  | false =>
    rw [Node.rank_of_not_isForwarding hrole]
    exact hlt

/-! ## The pressure after a decision -/

theorem pressure_assigned_self (kept : Assignment) :
    pressure policy (room.assigned id node kept) id bar = pressure policy room id bar := by
  unfold pressure
  rw [otherForwarders_eq, countOthers_assigned_self, countOthers_assigned_self,
    otherForwarders_eq]

/-- The pressure against a higher bar is not greater. -/
theorem pressure_le_of_bar {higher : α}
    (h : ∀ other otherNode, room.nodes.get? other = some otherNode →
      higher < otherNode.rank policy → bar < otherNode.rank policy) :
    pressure policy room id higher ≤ pressure policy room id bar := by
  unfold pressure
  apply Nat.add_le_add_left
  apply countOthers_mono
  intro other otherNode _ hget houtranks
  unfold outranks at houtranks ⊢
  rw [Bool.and_eq_true, decide_eq_true_eq] at houtranks ⊢
  exact ⟨houtranks.1, h other otherNode hget houtranks.2⟩

section Bonus

variable (horder : policy.OrdersScores scores) (hscored : room.ScoredBy policy scores)
  (hget : room.nodes.get? id = some node)

include horder hscored hget

/-- The bonus does not add to the pressure against a node. -/
theorem pressure_raise_le :
    pressure policy room id (node.score policy + policy.incumbentBonus) ≤
      pressure policy room id (node.score policy) := by
  apply pressure_le_of_bar
  intro other otherNode hother hlt
  exact horder.lt_of_raise_lt (hscored id node hget)
    (rank_mem_ranks (hscored other otherNode hother)) hlt

/-- A node ranks at its score or at its score with the bonus, so the pressure at its rank lies
between the two. -/
theorem pressure_raise_le_rank :
    pressure policy room id (node.score policy + policy.incumbentBonus) ≤
      pressure policy room id (node.rank policy) := by
  cases hrole : node.role.isForwarding with
  | true =>
    have hrank : node.rank policy = _ := Node.rank_of_isForwarding hrole
    exact Nat.le_of_eq (congrArg (pressure policy room id) hrank.symm)
  | false =>
    rw [Node.rank_of_not_isForwarding hrole]
    exact pressure_raise_le horder hscored hget

theorem pressure_rank_le_score :
    pressure policy room id (node.rank policy) ≤
      pressure policy room id (node.score policy) := by
  cases hrole : node.role.isForwarding with
  | true =>
    rw [Node.rank_of_isForwarding hrole]
    exact pressure_raise_le horder hscored hget
  | false =>
    have hrank : node.rank policy = _ := Node.rank_of_not_isForwarding hrole
    exact Nat.le_of_eq (congrArg (pressure policy room id) hrank)

end Bonus

/-- How many places a node adds to the pressure against a bar: one if it forwards, and one if it
passes the gate and ranks above the bar. -/
def demand (policy : Policy α) (bar : α) (node : Node α) : Nat :=
  (if node.role.isForwarding then 1 else 0) + if outranks policy bar node then 1 else 0

theorem pressure_assigned (hother : room.nodes.get? other = some otherNode) (hne : other ≠ id)
    (kept : Assignment) :
    pressure policy (room.assigned other otherNode kept) id bar + demand policy bar otherNode =
      pressure policy room id bar +
        demand policy bar (otherNode.assign kept.role kept.streamIds) := by
  have hforwarders : (room.assigned other otherNode kept).countOthers id
        (fun _ node => node.role.isForwarding) +
        (if otherNode.role.isForwarding then 1 else 0) =
      room.countOthers id (fun _ node => node.role.isForwarding) +
        if (otherNode.assign kept.role kept.streamIds).role.isForwarding then 1 else 0 :=
    countOthers_assigned hother hne kept
  have houtranks : (room.assigned other otherNode kept).countOthers id
        (fun _ node => outranks policy bar node) +
        (if outranks policy bar otherNode then 1 else 0) =
      room.countOthers id (fun _ node => outranks policy bar node) +
        if outranks policy bar (otherNode.assign kept.role kept.streamIds) then 1 else 0 :=
    countOthers_assigned hother hne kept
  unfold pressure demand
  rw [otherForwarders_eq, otherForwarders_eq]
  omega

/-- A decision about another node that does not promote it adds no pressure. -/
theorem pressure_assigned_le (horder : policy.OrdersScores scores)
    (hother : room.nodes.get? other = some otherNode) (hne : other ≠ id)
    (hscore : otherNode.score policy ∈ scores) (hbar : bar ∈ policy.ranks scores)
    {kept : Assignment}
    (hkept : kept.role.isForwarding = true → otherNode.role.isForwarding = true) :
    pressure policy (room.assigned other otherNode kept) id bar ≤ pressure policy room id bar := by
  have hdemand : demand policy bar (otherNode.assign kept.role kept.streamIds) ≤
      demand policy bar otherNode := by
    have hrole : (otherNode.assign kept.role kept.streamIds).role = kept.role := rfl
    cases hafter : kept.role.isForwarding with
    | true =>
      -- an incumbent that is admitted again ranks as before
      have hbefore := hkept hafter
      unfold demand outranks
      rw [Node.rank_of_isForwarding hbefore, Node.rank_of_isForwarding (hrole ▸ hafter), hrole,
        hafter, hbefore]
      exact Nat.le_refl _
    | false =>
      have houtranks : outranks policy bar (otherNode.assign kept.role kept.streamIds) = true →
          outranks policy bar otherNode = true := by
        unfold outranks
        rw [Node.rank_of_not_isForwarding (hrole ▸ hafter), Bool.and_eq_true, Bool.and_eq_true,
          decide_eq_true_eq, decide_eq_true_eq]
        intro h
        exact ⟨h.1, lt_rank_of_lt_score horder hscore hbar h.2⟩
      unfold demand
      rw [hrole, hafter]
      cases hout : outranks policy bar (otherNode.assign kept.role kept.streamIds) with
      | true =>
        rw [houtranks hout]
        simp
      | false => simp
  have hsplit : pressure policy (room.assigned other otherNode kept) id bar +
        demand policy bar otherNode =
      pressure policy room id bar +
        demand policy bar (otherNode.assign kept.role kept.streamIds) :=
    pressure_assigned hother hne kept
  omega

/-- An incumbent is under less pressure than an idle node that ranks no higher than the bar of the
incumbent, because the incumbent itself takes one of the places. -/
theorem pressure_incumbent_lt (hget : room.nodes.get? id = some node)
    (hrole : node.role.isForwarding = true) (hother : room.nodes.get? other = some otherNode)
    (hne : other ≠ id) (hidle : otherNode.role.isForwarding = false)
    (hbelow : ¬bar < otherNode.rank policy)
    (hmono : ∀ name found, room.nodes.get? name = some found → bar < found.rank policy →
      otherNode.rank policy < found.rank policy) :
    pressure policy room id bar < pressure policy room other (otherNode.rank policy) := by
  have hplaces : room.countOthers id (fun _ node => node.role.isForwarding) + 1 ≤
      room.countOthers other (fun _ node => node.role.isForwarding) := by
    rw [countOthers_eq hget (Ne.symm hne), if_pos hrole]
    apply Nat.add_le_add_right
    apply countOthers_mono
    intro name found _ hfound hforwards
    have hnot : name ≠ other := by
      intro heq
      rw [heq, hother] at hfound
      rw [← Option.some.inj hfound, hidle] at hforwards
      exact Bool.false_ne_true hforwards
    simp [hnot, hforwards]
  have hranks : room.countOthers id (fun _ node => outranks policy bar node) ≤
      room.countOthers other (fun _ node => outranks policy (otherNode.rank policy) node) := by
    rw [countOthers_eq hget (Ne.symm hne)]
    apply Nat.le_add_right_of_le
    apply countOthers_mono
    intro name found _ hfound houtranks
    unfold outranks at houtranks ⊢
    rw [Bool.and_eq_true, decide_eq_true_eq] at houtranks
    obtain ⟨helig, hlt⟩ := houtranks
    have hnot : name ≠ other := by
      intro heq
      rw [heq, hother] at hfound
      rw [← Option.some.inj hfound] at hlt
      exact hbelow hlt
    simp [hnot, helig, hmono name found hfound hlt]
  unfold pressure
  rw [otherForwarders_eq, otherForwarders_eq]
  omega

/-- The promotion of a node whose score is not greater puts no more pressure on an incumbent than the
promoted node was under. -/
theorem pressure_promoted_le (horder : policy.OrdersScores scores)
    (hscored : room.ScoredBy policy scores) (hget : room.nodes.get? id = some node)
    (hrole : node.role.isForwarding = true) (hother : room.nodes.get? other = some otherNode)
    (hne : other ≠ id) (hidle : otherNode.role.isForwarding = false) {kept : Assignment}
    (hkept : kept.role.isForwarding = true)
    (habove : ¬node.score policy < otherNode.score policy) :
    pressure policy (room.assigned other otherNode kept) id
        (node.score policy + policy.incumbentBonus) ≤
      pressure policy room other (otherNode.rank policy) := by
  have hscore := hscored id node hget
  have hotherScore := hscored other otherNode hother
  have hbar : node.score policy + policy.incumbentBonus ∈ policy.ranks scores :=
    Policy.raise_mem_ranks hscore
  have hidleRank : otherNode.rank policy = otherNode.score policy :=
    Node.rank_of_not_isForwarding hidle
  have hbelow : ¬node.score policy + policy.incumbentBonus < otherNode.rank policy := by
    rw [hidleRank]
    exact horder.trans _ hbar _ (Policy.mem_ranks hscore) _ (Policy.mem_ranks hotherScore)
      (horder.le_raise _ hscore) habove
  have hless : pressure policy room id (node.score policy + policy.incumbentBonus) <
      pressure policy room other (otherNode.rank policy) := by
    apply pressure_incumbent_lt hget hrole hother hne hidle hbelow
    intro name found hfound hlt
    exact horder.orders.lt_of_not_lt_of_lt (rank_mem_ranks hotherScore) hbar
      (rank_mem_ranks (hscored name found hfound)) hbelow hlt
  -- the promoted node takes one place more, and it does not rank above the incumbent
  have hdemand : demand policy (node.score policy + policy.incumbentBonus)
      (otherNode.assign kept.role kept.streamIds) = 1 := by
    have hrank : (otherNode.assign kept.role kept.streamIds).rank policy =
        otherNode.score policy + policy.incumbentBonus :=
      Node.rank_of_isForwarding hkept
    have hforwards : (otherNode.assign kept.role kept.streamIds).role.isForwarding = true := hkept
    have hnot := horder.raise_mono _ hotherScore _ hscore habove
    unfold demand outranks
    rw [hrank, hforwards]
    simp [hnot]
  have hsplit : pressure policy (room.assigned other otherNode kept) id
          (node.score policy + policy.incumbentBonus) +
        demand policy (node.score policy + policy.incumbentBonus) otherNode =
      pressure policy room id (node.score policy + policy.incumbentBonus) +
        demand policy (node.score policy + policy.incumbentBonus)
          (otherNode.assign kept.role kept.streamIds) :=
    pressure_assigned hother hne kept
  omega

/-! ## Secure nodes -/

/-- A node forwards, and it would be admitted again. -/
def Secure (policy : Policy α) (room : Room α) (id : String) : Prop :=
  ∃ node, room.nodes.get? id = some node ∧ node.role.isForwarding = true ∧
    (room.decision policy id node).role.isForwarding = true

/-- A node that has been admitted is secure. -/
theorem secure_decided_self (horder : policy.OrdersScores scores)
    (hscored : room.ScoredBy policy scores) (hget : room.nodes.get? id = some node)
    (hadmitted : (room.decision policy id node).role.isForwarding = true) :
    Secure policy (room.decided policy id node) id := by
  obtain ⟨helig, hsize, hpressure⟩ := decision_isForwarding_iff.1 hadmitted
  refine ⟨_, get?_decided_self policy id node, hadmitted,
    decision_isForwarding_iff.2 ⟨helig, ?_, ?_⟩⟩
  · rw [size_decided hget]
    exact hsize
  · rw [size_decided hget, decided, pressure_assigned_self,
      Node.rank_of_isForwarding hadmitted, Node.score_assign]
    exact Nat.lt_of_le_of_lt (pressure_raise_le_rank horder hscored hget) hpressure

/-- A decision keeps a secure node secure, unless it promotes a node with a greater score. -/
theorem Secure.decided (horder : policy.OrdersScores scores)
    (hscored : room.ScoredBy policy scores) (h : Secure policy room id)
    (hget : room.nodes.get? id = some node) (hother : room.nodes.get? other = some otherNode)
    (habove : otherNode.role.isForwarding = false →
      (room.decision policy other otherNode).role.isForwarding = true →
      ¬node.score policy < otherNode.score policy) :
    Secure policy (room.decided policy other otherNode) id := by
  obtain ⟨found, hfound, hrole, hadmitted⟩ := h
  rw [hget] at hfound
  obtain rfl := Option.some.inj hfound
  by_cases hne : other = id
  · subst hne
    rw [hget] at hother
    obtain rfl := Option.some.inj hother
    exact secure_decided_self horder hscored hget hadmitted
  · obtain ⟨helig, hsize, hpressure⟩ := decision_isForwarding_iff.1 hadmitted
    rw [Node.rank_of_isForwarding hrole] at hpressure
    have hkept : (room.decided policy other otherNode).nodes.get? id = some node := by
      rw [get?_decided_of_ne (Ne.symm hne), hget]
    refine ⟨node, hkept, hrole, decision_isForwarding_iff.2 ⟨helig, ?_, ?_⟩⟩
    · rw [size_decided hother]
      exact hsize
    · rw [size_decided hother, Room.decided, Node.rank_of_isForwarding hrole]
      by_cases hpromoted : otherNode.role.isForwarding = false ∧
          (room.decision policy other otherNode).role.isForwarding = true
      · obtain ⟨hidle, hafter⟩ := hpromoted
        obtain ⟨-, -, hplaces⟩ := decision_isForwarding_iff.1 hafter
        exact Nat.lt_of_le_of_lt (pressure_promoted_le horder hscored hget hrole hother hne hidle
          hafter (habove hidle hafter)) hplaces
      · apply Nat.lt_of_le_of_lt _ hpressure
        apply pressure_assigned_le horder hother hne (hscored other otherNode hother)
        · exact Policy.raise_mem_ranks (hscored id node hget)
        · intro hafter
          by_contra hidle
          exact hpromoted ⟨Bool.eq_false_iff.2 hidle, hafter⟩

/-! ## Passes -/

/-- Whether a node has a forwarding role. -/
def forwards (room : Room α) (id : String) : Bool :=
  (room.nodes.get? id).any (fun node => node.role.isForwarding)

omit [Scalar α] in
theorem forwards_of_get? (hget : room.nodes.get? id = some node) :
    room.forwards id = node.role.isForwarding := by
  rw [forwards, hget]
  rfl

theorem Secure.forwards (h : Secure policy room id) : room.forwards id = true := by
  obtain ⟨node, hget, hrole, -⟩ := h
  rw [forwards_of_get? hget, hrole]

/-- The pass decides about the node with this role, and no later decision of the pass changes it. -/
theorem forwards_evaluateAll_cons (hnodup : (other :: ids).Nodup)
    (hother : room.nodes.get? other = some otherNode) :
    (evaluateAll policy (other :: ids) room).2.forwards other =
      (room.decision policy other otherNode).role.isForwarding := by
  have hnot := (List.nodup_cons.1 hnodup).1
  rw [evaluateAll_cons hother, Room.forwards, get?_evaluateAll_of_not_mem hnot,
    get?_decided_self]
  rfl

/-- The decisions about some nodes, one after the other, promote none that has a greater score than
a node has. -/
def SparesBelow (policy : Policy α) (ids : List String) (room : Room α) (id : String) : Prop :=
  ∀ node, room.nodes.get? id = some node → ∀ other ∈ ids, ∀ otherNode,
    room.nodes.get? other = some otherNode → node.score policy < otherNode.score policy →
    otherNode.role.isForwarding = false → (evaluateAll policy ids room).2.forwards other = false

theorem SparesBelow.skipped (h : SparesBelow policy (other :: ids) room id)
    (hother : room.nodes.get? other = none) : SparesBelow policy ids room id := by
  intro node hget name hname found hfound hlt hidle
  have hfinal := h node hget name (List.mem_cons_of_mem _ hname) found hfound hlt hidle
  rw [evaluateAll_cons_of_none hother] at hfinal
  exact hfinal

theorem SparesBelow.rest (h : SparesBelow policy (other :: ids) room id)
    (hother : room.nodes.get? other = some otherNode) (hnot : other ∉ ids) :
    SparesBelow policy ids (room.decided policy other otherNode) id := by
  intro node hget name hname found hfound hlt hidle
  obtain ⟨before, hbefore, hscore⟩ :=
    get?_of_score? ((score?_decided hother).symm.trans (score?_of_get? hget))
  have hne : name ≠ other := fun heq => hnot (heq ▸ hname)
  rw [get?_decided_of_ne hne] at hfound
  rw [← hscore] at hlt
  have hfinal := h before hbefore name (List.mem_cons_of_mem _ hname) found hfound hlt hidle
  rw [evaluateAll_cons hother] at hfinal
  exact hfinal

/-- The first of the decisions keeps a secure node secure: the promotion of a node above it would
still show at the end of the pass. -/
theorem Secure.decided_of_sparesBelow (horder : policy.OrdersScores scores)
    (hscored : room.ScoredBy policy scores) (hnodup : (other :: ids).Nodup)
    (hother : room.nodes.get? other = some otherNode)
    (hspares : SparesBelow policy (other :: ids) room id) (h : Secure policy room id) :
    Secure policy (room.decided policy other otherNode) id := by
  have hsecure := h
  obtain ⟨node, hget, -, -⟩ := hsecure
  apply h.decided horder hscored hget hother
  intro hidle hadmitted hlt
  have hfinal := hspares node hget other (List.mem_cons_self ..) otherNode hother hlt hidle
  rw [forwards_evaluateAll_cons hnodup hother, hadmitted] at hfinal
  exact Bool.noConfusion hfinal

/-- A pass that promotes no node with a greater score keeps a secure node secure. -/
theorem Secure.evaluateAll (horder : policy.OrdersScores scores)
    (hscored : room.ScoredBy policy scores) (hnodup : ids.Nodup)
    (hspares : SparesBelow policy ids room id) (h : Secure policy room id) :
    Secure policy (evaluateAll policy ids room).2 id := by
  induction ids generalizing room with
  | nil => exact h
  | cons other rest ih =>
    obtain ⟨hnot, hrest⟩ := List.nodup_cons.1 hnodup
    cases hother : room.nodes.get? other with
    | none =>
      rw [evaluateAll_cons_of_none hother]
      exact ih hscored hrest (hspares.skipped hother) h
    | some otherNode =>
      have hstep : Secure policy (room.decided policy other otherNode) id :=
        h.decided_of_sparesBelow horder hscored hnodup hother hspares
      rw [evaluateAll_cons hother]
      exact ih (hscored.of_score? fun _ => score?_decided hother) hrest
        (hspares.rest hother hnot) hstep

/-- A node that such a pass decides about and that forwards after it is secure. -/
theorem secure_of_forwards_evaluateAll (horder : policy.OrdersScores scores)
    (hscored : room.ScoredBy policy scores) (hnodup : ids.Nodup)
    (hspares : SparesBelow policy ids room id) (hmem : id ∈ ids)
    (hforwards : (evaluateAll policy ids room).2.forwards id = true) :
    Secure policy (evaluateAll policy ids room).2 id := by
  induction ids generalizing room with
  | nil => exact absurd hmem List.not_mem_nil
  | cons other rest ih =>
    obtain ⟨hnot, hrest⟩ := List.nodup_cons.1 hnodup
    cases hother : room.nodes.get? other with
    | none =>
      rw [evaluateAll_cons_of_none hother] at hforwards ⊢
      rcases List.mem_cons.1 hmem with heq | hlater
      · subst heq
        rw [forwards, get?_evaluateAll_of_not_mem hnot, hother] at hforwards
        exact nomatch hforwards
      · exact ih hscored hrest (hspares.skipped hother) hlater hforwards
    | some otherNode =>
      have hscored' : (room.decided policy other otherNode).ScoredBy policy scores :=
        hscored.of_score? fun _ => score?_decided hother
      have hspares' := hspares.rest hother hnot
      rcases List.mem_cons.1 hmem with heq | hlater
      · -- the decision about the node admits it, and the rest of the pass keeps it
        subst heq
        rw [forwards_evaluateAll_cons hnodup hother] at hforwards
        rw [evaluateAll_cons hother]
        exact (secure_decided_self horder hscored hother hforwards).evaluateAll horder hscored'
          hrest hspares'
      · rw [evaluateAll_cons hother] at hforwards ⊢
        exact ih hscored' hrest hspares' hlater hforwards

/-- A pass in which the nodes with greater scores keep their roles keeps a secure node secure, and
makes every node secure that forwards after it. -/
theorem secure_rebalance (horder : policy.OrdersScores scores)
    (hscored : room.ScoredBy policy scores) (hget : room.nodes.get? id = some node)
    (habove : ∀ other otherNode, room.nodes.get? other = some otherNode →
      node.score policy < otherNode.score policy →
      (room.rebalance policy).2.forwards other = room.forwards other) :
    (Secure policy room id → Secure policy (room.rebalance policy).2 id) ∧
      ((room.rebalance policy).2.forwards id = true →
        Secure policy (room.rebalance policy).2 id) := by
  have hspares : SparesBelow policy room.nodes.keys room id := by
    intro found hfound other _ otherNode hother hlt hidle
    rw [hget] at hfound
    obtain rfl := Option.some.inj hfound
    rw [← hidle, ← forwards_of_get? hother]
    exact habove other otherNode hother hlt
  have hmem : id ∈ room.nodes.keys := Table.mem_keys.2 ⟨node, hget⟩
  constructor
  · intro h
    exact h.evaluateAll horder hscored room.nodes.nodup_keys hspares
  · intro hforwards
    exact secure_of_forwards_evaluateAll horder hscored room.nodes.nodup_keys hspares hmem hforwards

end Room

end RelayMesh

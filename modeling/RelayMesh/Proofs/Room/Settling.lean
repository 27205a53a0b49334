import Mathlib.Order.Filter.AtTopBot.Basic
import Mathlib.Order.Filter.Finite
import RelayMesh.Proofs.Room.Placement

/-!
# Rooms under constant load

Passes follow one upon the other and nothing else happens to the room.
`Room.passes` is the room after some of them.  A statement that holds from
some pass on is written with `Filter.Eventually`.

* The roles settle from the top: once the nodes with greater scores keep their
  roles, nothing can cost an incumbent its role.  `role_settles` is the
  induction.
* The streams settle after the roles: with constant roles, a pass that changes
  anything makes the room cheaper (`Room.cost`), which cannot go on for ever.
* `eventually_quiet` is the result.  A room over which a pass changes nothing
  is at rest, and stays so.
-/

namespace RelayMesh

open Filter

namespace Room

variable {α : Type} [Scalar α] {room : Room α} {policy : Policy α} {scores : List α}
  {id other : String} {node : Node α}

/-- The room after some passes. -/
def passes (policy : Policy α) (room : Room α) : Nat → Room α
  | 0 => room
  | count + 1 => ((room.passes policy count).rebalance policy).2

/-! ## What passes never touch -/

theorem score?_rebalance : score? policy (room.rebalance policy).2 id = score? policy room id := by
  refine evaluateAll_induction (P := fun _ r => score? policy r id = score? policy room id) ?_ ?_ rfl
  · intro _ _ _ _ hget hscore
    exact (score?_decided hget).trans hscore
  · intro _ _ _ _ hscore
    exact hscore

theorem score?_passes (count : Nat) :
    score? policy (room.passes policy count) id = score? policy room id := by
  induction count with
  | zero => rfl
  | succ count ih => rw [passes, score?_rebalance, ih]

/-- A node is there after some passes as before, with the same score. -/
theorem get?_passes (count : Nat) (hget : room.nodes.get? id = some node) :
    ∃ after, (room.passes policy count).nodes.get? id = some after ∧
      after.score policy = node.score policy := by
  have hscore : score? policy (room.passes policy count) id = some (node.score policy) := by
    rw [score?_passes, score?_of_get? hget]
  exact get?_of_score? hscore

theorem forwards_passes_of_absent (hget : room.nodes.get? id = none) (count : Nat) :
    (room.passes policy count).forwards id = false := by
  have hscore : score? policy (room.passes policy count) id = none := by
    rw [score?_passes, score?, hget]
    rfl
  have hafter : (room.passes policy count).nodes.get? id = none := Option.map_eq_none_iff.1 hscore
  rw [forwards, hafter]
  rfl

theorem keys_passes (count : Nat) : (room.passes policy count).nodes.keys = room.nodes.keys := by
  induction count with
  | zero => rfl
  | succ count ih => rw [passes, keys_rebalance, ih]

theorem ScoredBy.passes (h : room.ScoredBy policy scores) (count : Nat) :
    (room.passes policy count).ScoredBy policy scores :=
  h.of_score? fun _ => score?_passes count

/-! ## Roles -/

/-- How many nodes have a greater score. -/
def countAbove (policy : Policy α) (room : Room α) (score : α) : Nat :=
  (room.scores policy).countP (fun other => decide (score < other))

/-- Fewer nodes are above a node that is above. -/
theorem countAbove_lt (horder : policy.OrdersScores (room.scores policy)) {score above : α}
    (hscore : score ∈ room.scores policy) (habove : above ∈ room.scores policy)
    (hlt : score < above) : countAbove policy room above < countAbove policy room score := by
  have hself : ¬above < above := fun h =>
    horder.asymm _ (Policy.mem_ranks habove) _ (Policy.mem_ranks habove) h h
  apply countP_lt_countP _ habove (by simpa using hself) (by simpa using hlt)
  intro other hother hgreater
  rw [decide_eq_true_eq] at hgreater ⊢
  have hrank : other ∈ policy.ranks (room.scores policy) := Policy.mem_ranks hother
  have hnot := horder.asymm _ (Policy.mem_ranks habove) _ hrank hgreater
  exact horder.orders.lt_of_lt_of_not_lt (Policy.mem_ranks hscore) (Policy.mem_ranks habove) hrank
    hlt hnot

/-- Once it never loses the role, a node has it from some pass on or never again. -/
theorem eventually_constant (role : Nat → Bool)
    (h : ∀ᶠ count in atTop, role count = true → role (count + 1) = true) :
    ∀ᶠ count in atTop, role (count + 1) = role count := by
  obtain ⟨start, hstart⟩ := eventually_atTop.1 h
  rw [eventually_atTop]
  by_cases hever : ∃ count, start ≤ count ∧ role count = true
  · obtain ⟨first, hle, hfirst⟩ := hever
    have hlater : ∀ count, first ≤ count → role count = true := by
      intro count hcount
      induction count, hcount using Nat.le_induction with
      | base => exact hfirst
      | succ count hcount ih => exact hstart count (by omega) ih
    refine ⟨first, fun count hcount => ?_⟩
    rw [hlater count hcount, hlater (count + 1) (by omega)]
  · refine ⟨start, fun count hcount => ?_⟩
    have hnever : ∀ count, start ≤ count → role count = false := by
      intro count hcount
      rw [← Bool.not_eq_true]
      intro htrue
      exact hever ⟨count, hcount, htrue⟩
    rw [hnever count hcount, hnever (count + 1) (by omega)]

/-- The role of a node settles as soon as the roles of the nodes with greater scores have. -/
theorem role_settles_of_above (horder : policy.OrdersScores scores)
    (hscored : room.ScoredBy policy scores) (hget : room.nodes.get? id = some node)
    (habove : ∀ᶠ count in atTop, ∀ other otherNode, room.nodes.get? other = some otherNode →
      node.score policy < otherNode.score policy →
      (room.passes policy (count + 1)).forwards other = (room.passes policy count).forwards other) :
    ∀ᶠ count in atTop,
      (room.passes policy (count + 1)).forwards id = (room.passes policy count).forwards id := by
  obtain ⟨start, hstart⟩ := eventually_atTop.1 habove
  have hpass : ∀ count, start ≤ count →
      (Secure policy (room.passes policy count) id →
        Secure policy (room.passes policy (count + 1)) id) ∧
      ((room.passes policy (count + 1)).forwards id = true →
        Secure policy (room.passes policy (count + 1)) id) := by
    intro count hcount
    obtain ⟨now, hnow, hscore⟩ := get?_passes count hget
    apply secure_rebalance horder (hscored.passes count) hnow
    intro other otherNow hother hlt
    have hbefore : score? policy room other = some (otherNow.score policy) := by
      rw [← score?_passes count, score?_of_get? hother]
    obtain ⟨otherNode, hotherNode, heq⟩ := get?_of_score? hbefore
    apply hstart count hcount other otherNode hotherNode
    rw [heq, ← hscore]
    exact hlt
  apply eventually_constant (fun count => (room.passes policy count).forwards id)
  rw [eventually_atTop]
  refine ⟨start + 1, fun count hcount hforwards => ?_⟩
  obtain ⟨before, rfl⟩ : ∃ before, count = before + 1 := ⟨count - 1, by omega⟩
  have hsecure := (hpass before (by omega)).2 hforwards
  exact ((hpass (before + 1) (by omega)).1 hsecure).forwards

/-- Under constant load every node keeps its role from some pass on.  The induction is on the number
of nodes with a greater score. -/
theorem role_settles (horder : policy.OrdersScores (room.scores policy)) (id : String) :
    ∀ᶠ count in atTop,
      (room.passes policy (count + 1)).forwards id = (room.passes policy count).forwards id := by
  cases hget : room.nodes.get? id with
  | none =>
    apply Eventually.of_forall
    intro count
    rw [forwards_passes_of_absent hget, forwards_passes_of_absent hget]
  | some node =>
    induction hcount : countAbove policy room (node.score policy) using Nat.strong_induction_on
      generalizing id node with
    | _ above ih =>
      apply role_settles_of_above horder (scoredBy_scores room policy) hget
      have heach : ∀ other ∈ room.nodes.keys.toFinset, ∀ᶠ count in atTop,
          ∀ otherNode, room.nodes.get? other = some otherNode →
            node.score policy < otherNode.score policy →
            (room.passes policy (count + 1)).forwards other =
              (room.passes policy count).forwards other := by
        intro other hother
        obtain ⟨otherNode, hotherNode⟩ := Table.mem_keys.1 (List.mem_toFinset.1 hother)
        by_cases hlt : node.score policy < otherNode.score policy
        · have hless := countAbove_lt horder (score_mem_scores hget) (score_mem_scores hotherNode) hlt
          rw [hcount] at hless
          exact (ih _ hless other otherNode hotherNode rfl).mono fun count h _ _ _ => h
        · apply Eventually.of_forall
          intro count found hfound hfoundLt
          rw [hotherNode] at hfound
          rw [← Option.some.inj hfound] at hfoundLt
          exact absurd hfoundLt hlt
      apply ((eventually_all_finset _).2 heach).mono
      intro count h other otherNode hother
      exact h other (List.mem_toFinset.2 (Table.mem_keys.2 ⟨otherNode, hother⟩)) otherNode hother

theorem roles_settle (horder : policy.OrdersScores (room.scores policy)) :
    ∀ᶠ count in atTop, ∀ id ∈ room.nodes.keys,
      (room.passes policy (count + 1)).forwards id = (room.passes policy count).forwards id := by
  have heach : ∀ id ∈ room.nodes.keys.toFinset, ∀ᶠ count in atTop,
      (room.passes policy (count + 1)).forwards id = (room.passes policy count).forwards id :=
    fun id _ => role_settles horder id
  apply ((eventually_all_finset _).2 heach).mono
  intro count h id hid
  exact h id (List.mem_toFinset.2 hid)

/-! ## Streams -/

/-- From some pass on, each pass that changes anything makes the room cheaper. -/
theorem eventually_cheaper (horder : policy.OrdersScores (room.scores policy)) :
    ∀ᶠ count in atTop, ((room.passes policy count).rebalance policy).1 ≠ [] →
      (room.passes policy (count + 1)).cost < (room.passes policy count).cost := by
  obtain ⟨start, hstart⟩ := eventually_atTop.1 (roles_settle horder)
  rw [eventually_atTop]
  refine ⟨start + 1, fun count hcount hchanges => ?_⟩
  obtain ⟨before, rfl⟩ : ∃ before, count = before + 1 := ⟨count - 1, by omega⟩
  have hloaded : ∀ id node, (room.passes policy (before + 1)).nodes.get? id = some node →
      Loaded policy (room.passes policy (before + 1)).streamInfos id node := by
    intro id node hget
    have hinfos : (room.passes policy (before + 1)).streamInfos =
        (room.passes policy before).streamInfos := streamInfos_rebalance
    rw [hinfos]
    exact loaded_rebalance hget
  have hroles : ∀ id ∈ (room.passes policy (before + 1)).nodes.keys,
      ((room.passes policy (before + 1)).rebalance policy).2.forwards id =
        (room.passes policy (before + 1)).forwards id := by
    intro id hid
    rw [keys_passes] at hid
    exact hstart (before + 1) (by omega) id hid
  exact (cost_evaluateAll (Table.nodup_keys _) hloaded hroles).2 hchanges

/-! ## Passes that change nothing -/

/-- Under constant load the passes change nothing any more from some pass on. -/
theorem eventually_quiet (horder : policy.OrdersScores (room.scores policy)) :
    ∀ᶠ count in atTop, ((room.passes policy count).rebalance policy).1 = [] := by
  obtain ⟨start, hcheaper⟩ := eventually_atTop.1 (eventually_cheaper horder)
  obtain ⟨first, hfirst⟩ : ∃ count, ((room.passes policy count).rebalance policy).1 = [] := by
    by_contra hnever
    have hchanges : ∀ count, ((room.passes policy count).rebalance policy).1 ≠ [] :=
      fun count hquiet => hnever ⟨count, hquiet⟩
    -- the cost would sink below zero
    have hsinks : ∀ steps, (room.passes policy (start + steps)).cost + steps ≤
        (room.passes policy start).cost := by
      intro steps
      induction steps with
      | zero => exact Nat.le_refl _
      | succ steps ih =>
        have hless := hcheaper (start + steps) (by omega) (hchanges _)
        rw [Nat.add_assoc] at hless
        omega
    have hbelow := hsinks ((room.passes policy start).cost + 1)
    omega
  rw [eventually_atTop]
  refine ⟨first, fun count hcount => ?_⟩
  induction count, hcount using Nat.le_induction with
  | base => exact hfirst
  | succ count hcount ih => exact rebalance_eq_nil_iff.2 (rebalance_eq_nil_iff.1 ih).rebalance

end Room

end RelayMesh

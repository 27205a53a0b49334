import RelayMesh.Proofs.Hub.Cap

/-!
# Who is admitted

A node gets a forwarding role when it passes the gate and finds a free place.
Every other node that forwards takes a place, and every other node that passes
the gate and ranks higher has a better claim to one.  `Room.pressure` adds
these up for a node of some rank, and `decision_isForwarding_iff` says that
the node is admitted exactly when the pressure stays below the number of
places.

* `Policy.OrdersScores` is what the later files assume of the arithmetic of
  scores: the comparison is a total preorder, and the incumbent bonus keeps the
  order and lowers no score.
* `countOthers_eq` splits a count over the other nodes at one of them, and
  `countOthers_assigned` says what an assignment does to it.
-/

namespace RelayMesh

/-- A test that accepts more, and one element at least that the other test rejects, counts more. -/
theorem countP_lt_countP {β : Type} {p q : β → Bool} {list : List β} {x : β}
    (himp : ∀ y ∈ list, p y = true → q y = true) (hx : x ∈ list) (hp : p x = false)
    (hq : q x = true) : list.countP p < list.countP q := by
  obtain ⟨front, back, heq⟩ := List.append_of_mem hx
  have hmono : ∀ part, part ⊆ list → part.countP p ≤ part.countP q := fun part hpart =>
    List.countP_mono_left fun y hy => himp y (hpart hy)
  have hfront := hmono front (by simp [heq])
  have hback := hmono back (by simp [heq])
  rw [heq, List.countP_append, List.countP_append, List.countP_cons, List.countP_cons, hp, hq]
  simp only [Bool.false_eq_true, if_true, if_false]
  omega

/-! ## Nodes -/

namespace Node

variable {α : Type} [Scalar α]

/-- Whether the node passes the gate for relaying under the limits of a policy. -/
def isEligible (node : Node α) (policy : Policy α) : Bool :=
  policy.isEligible (node.view "" "")

/-- The suitability of the node for relaying. -/
def score (node : Node α) (policy : Policy α) : α :=
  policy.score (node.view "" "")

/-- The score by which the node is compared with others. -/
def rank (node : Node α) (policy : Policy α) : α :=
  policy.ranking (node.view "" "")

variable {node : Node α} {policy : Policy α}

theorem rank_of_isForwarding (h : node.role.isForwarding = true) :
    node.rank policy = node.score policy + policy.incumbentBonus :=
  if_pos h

theorem rank_of_not_isForwarding (h : node.role.isForwarding = false) :
    node.rank policy = node.score policy := by
  unfold rank Policy.ranking
  rw [if_neg]
  · rfl
  · show ¬node.role.isForwarding = true
    simp [h]

/-- An assignment does not change the score of a node. -/
@[simp] theorem score_assign (role : Role) (streams : List String) :
    (node.assign role streams).score policy = node.score policy := rfl

end Node

/-! ## The order of scores -/

/-- Of finitely many items, some one is below no other. -/
theorem exists_maximal {ι : Type} {below : ι → ι → Prop} {items : List ι}
    (hasymm : ∀ a ∈ items, ∀ b ∈ items, below a b → ¬below b a)
    (htrans : ∀ a ∈ items, ∀ b ∈ items, ∀ c ∈ items, ¬below a b → ¬below b c → ¬below a c)
    (hne : items ≠ []) : ∃ top ∈ items, ∀ item ∈ items, ¬below top item := by
  induction items with
  | nil => exact absurd rfl hne
  | cons head rest ih =>
    have hhead : head ∈ head :: rest := List.mem_cons_self ..
    have hlater : ∀ item ∈ rest, item ∈ head :: rest := fun _ => List.mem_cons_of_mem _
    have hself : ¬below head head := fun hbelow => hasymm head hhead head hhead hbelow hbelow
    by_cases hrest : rest = []
    · refine ⟨head, hhead, fun item hitem => ?_⟩
      rw [hrest, List.mem_singleton] at hitem
      rw [hitem]
      exact hself
    · obtain ⟨top, htop, hmax⟩ := ih
        (fun a ha b hb => hasymm a (hlater a ha) b (hlater b hb))
        (fun a ha b hb c hc => htrans a (hlater a ha) b (hlater b hb) c (hlater c hc)) hrest
      by_cases hbelow : below top head
      · have hafter : ¬below head top := hasymm top (hlater top htop) head hhead hbelow
        refine ⟨head, hhead, fun item hitem => ?_⟩
        rcases List.mem_cons.1 hitem with rfl | hitem
        · exact hself
        · exact htrans head hhead top (hlater top htop) item (hlater item hitem) hafter
            (hmax item hitem)
      · refine ⟨top, hlater top htop, fun item hitem => ?_⟩
        rcases List.mem_cons.1 hitem with rfl | hitem
        · exact hbelow
        · exact hmax item hitem

namespace Scalar

variable {α : Type} [Scalar α]

/-- The comparison of some values is a total preorder. -/
structure Orders (values : List α) : Prop where
  asymm : ∀ a ∈ values, ∀ b ∈ values, a < b → ¬b < a
  trans : ∀ a ∈ values, ∀ b ∈ values, ∀ c ∈ values, ¬a < b → ¬b < c → ¬a < c

namespace Orders

variable {values : List α} {a b c : α} (h : Orders values)

include h

/-- What lies above a value lies above everything that is not above that value. -/
theorem lt_of_not_lt_of_lt (ha : a ∈ values) (hb : b ∈ values) (hc : c ∈ values) (hab : ¬b < a)
    (hbc : b < c) : a < c := by
  by_contra hac
  have hcb : ¬c < b := h.asymm b hb c hc hbc
  exact h.trans b hb a ha c hc hab hac hbc

/-- What lies above something lies above everything that is not above it. -/
theorem lt_of_lt_of_not_lt (ha : a ∈ values) (hb : b ∈ values) (hc : c ∈ values) (hab : a < b)
    (hbc : ¬c < b) : a < c := by
  by_contra hac
  exact h.trans a ha c hc b hb hac hbc hab

end Orders

end Scalar

namespace Policy

variable {α : Type} [Scalar α]

/-- The ranks of nodes with some scores: each score, and each score with the incumbent bonus. -/
def ranks (policy : Policy α) (scores : List α) : List α :=
  scores ++ scores.map (fun score => score + policy.incumbentBonus)

/-- The comparison of some scores is a total preorder, and the incumbent bonus keeps their order
and lowers none of them. -/
structure OrdersScores (policy : Policy α) (scores : List α) : Prop where
  asymm : ∀ a ∈ policy.ranks scores, ∀ b ∈ policy.ranks scores, a < b → ¬b < a
  trans : ∀ a ∈ policy.ranks scores, ∀ b ∈ policy.ranks scores, ∀ c ∈ policy.ranks scores,
    ¬a < b → ¬b < c → ¬a < c
  raise_mono : ∀ a ∈ scores, ∀ b ∈ scores,
    ¬b < a → ¬b + policy.incumbentBonus < a + policy.incumbentBonus
  le_raise : ∀ a ∈ scores, ¬a + policy.incumbentBonus < a

variable {policy : Policy α} {scores : List α} {a b c : α}

theorem mem_ranks (h : a ∈ scores) : a ∈ policy.ranks scores :=
  List.mem_append_left _ h

theorem raise_mem_ranks (h : a ∈ scores) : a + policy.incumbentBonus ∈ policy.ranks scores :=
  List.mem_append_right _ (List.mem_map_of_mem h)

namespace OrdersScores

variable (h : policy.OrdersScores scores)

include h

theorem orders : Scalar.Orders (policy.ranks scores) :=
  ⟨h.asymm, h.trans⟩

/-- What lies above a raised score lies above the score. -/
theorem lt_of_raise_lt (ha : a ∈ scores) (hc : c ∈ policy.ranks scores)
    (hlt : a + policy.incumbentBonus < c) : a < c :=
  h.orders.lt_of_not_lt_of_lt (mem_ranks ha) (raise_mem_ranks ha) hc (h.le_raise a ha) hlt

end OrdersScores

end Policy

namespace Room

variable {α : Type} {room : Room α} {id other : String} {node : Node α}
  {test : String → Node α → Bool}

/-! ## Counting the other nodes -/

/-- How many nodes other than one pass a test. -/
def countOthers (room : Room α) (id : String) (test : String → Node α → Bool) : Nat :=
  (room.nodes.entries.filter (fun entry => entry.1 ≠ id)).countP
    (fun entry => test entry.1 entry.2)

theorem otherForwarders_eq (room : Room α) (id : String) :
    room.otherForwarders id = room.countOthers id (fun _ node => node.role.isForwarding) := rfl

theorem countOthers_mono {test' : String → Node α → Bool}
    (h : ∀ other node, other ≠ id → room.nodes.get? other = some node →
      test other node = true → test' other node = true) :
    room.countOthers id test ≤ room.countOthers id test' := by
  apply List.countP_mono_left
  rintro ⟨other, node⟩ hmem htest
  obtain ⟨hentry, hne⟩ := List.mem_filter.1 hmem
  simp only [ne_eq, decide_not, Bool.not_eq_eq_eq_not, Bool.not_true, decide_eq_false_iff_not] at hne
  exact h other node hne ((Table.mem_entries_iff ..).1 hentry) htest

/-- A count reads nothing but what the test says about the other nodes. -/
theorem countOthers_congr {test' : String → Node α → Bool}
    (h : ∀ other node, other ≠ id → room.nodes.get? other = some node →
      test other node = test' other node) :
    room.countOthers id test = room.countOthers id test' := by
  refine Nat.le_antisymm (countOthers_mono ?_) (countOthers_mono ?_)
  · intro other node hne hget htest
    exact (h other node hne hget).symm.trans htest
  · intro other node hne hget htest
    exact (h other node hne hget).trans htest

/-- The count over the others of one node, with another node set apart. -/
theorem countOthers_eq (hnode : room.nodes.get? other = some node) (hne : other ≠ id) :
    room.countOthers id test =
      room.countOthers other (fun name node => decide (name ≠ id) && test name node) +
        if test other node then 1 else 0 := by
  have hperm := room.nodes.entries_insert_perm other node
  rw [Table.insert_of_get? hnode] at hperm
  unfold countOthers
  rw [List.countP_filter, hperm.countP_eq, List.countP_cons]
  simp [hne, Bool.and_comm]

/-- An assignment leaves the others of its node. -/
theorem countOthers_assigned_self (kept : Assignment) :
    (room.assigned id node kept).countOthers id test = room.countOthers id test := by
  have hperm := (room.nodes.entries_insert_perm id
    (node.assign kept.role kept.streamIds)).filter (fun entry => decide (entry.1 ≠ id))
  rw [List.filter_cons_of_neg (by simp), List.filter_filter] at hperm
  simp only [Bool.and_self] at hperm
  exact hperm.countP_eq _

/-- An assignment of another node changes a count by what the test says about that node. -/
theorem countOthers_assigned (hnode : room.nodes.get? other = some node) (hne : other ≠ id)
    (kept : Assignment) :
    (room.assigned other node kept).countOthers id test + (if test other node then 1 else 0) =
      room.countOthers id test +
        if test other (node.assign kept.role kept.streamIds) then 1 else 0 := by
  have hafter : (room.assigned other node kept).nodes.get? other =
      some (node.assign kept.role kept.streamIds) := by
    rw [get?_nodes_assigned, if_pos rfl]
  rw [countOthers_eq hafter hne, countOthers_assigned_self, countOthers_eq hnode hne]
  omega

/-! ## The pressure on the free places -/

variable [Scalar α] {policy : Policy α} {bar : α}

/-- Whether a node passes the gate and ranks above a bar. -/
def outranks (policy : Policy α) (bar : α) (node : Node α) : Bool :=
  node.isEligible policy && decide (bar < node.rank policy)

/-- How many places the other nodes claim against a node that ranks at a bar: each of them that
forwards takes one, and each of them that passes the gate and ranks above the bar comes first. -/
def pressure (policy : Policy α) (room : Room α) (id : String) (bar : α) : Nat :=
  room.otherForwarders id + room.countOthers id (fun _ node => outranks policy bar node)

theorem betterCount_nodeViews (room : Room α) (id : String) (node : Node α) :
    Selection.betterCount policy (room.nodeViews "") (node.view id "") =
      room.countOthers id (fun _ other => outranks policy (node.rank policy) other) := by
  rw [Selection.betterCount, Selection.others, nodeViews, List.filter_map, List.countP_map]
  rfl

/-- A node is admitted exactly when it passes the gate, is not alone, and the pressure of the others
leaves it a place. -/
theorem decision_isForwarding_iff :
    (room.decision policy id node).role.isForwarding = true ↔
      node.isEligible policy = true ∧ 2 ≤ room.nodes.size ∧
        pressure policy room id (node.rank policy) < optimalForwarders room.nodes.size := by
  have hgate : policy.isEligible (node.view id "") = node.isEligible policy := rfl
  rw [decision_isForwarding, Selection.admits]
  simp only [Bool.and_eq_true, decide_eq_true_eq, forwarderCount_nodeViews, betterCount_nodeViews,
    length_nodeViews, hgate, pressure]
  constructor
  · rintro ⟨⟨⟨helig, hsize⟩, hplaces⟩, hbetter⟩
    exact ⟨helig, hsize, by omega⟩
  · rintro ⟨helig, hsize, hpressure⟩
    exact ⟨⟨⟨helig, hsize⟩, by omega⟩, by omega⟩

/-- A node that is not admitted is to receive only. -/
theorem decision_eq_receiver (h : (room.decision policy id node).role.isForwarding = false) :
    room.decision policy id node = .receiver := by
  rw [decision_isForwarding] at h
  exact Selection.choose_of_not_admits h

/-- The scores of the nodes of a room. -/
def scores (room : Room α) (policy : Policy α) : List α :=
  room.nodes.values.map (fun node => node.score policy)

theorem score_mem_scores (h : room.nodes.get? id = some node) :
    node.score policy ∈ room.scores policy :=
  List.mem_map_of_mem (Table.mem_values.2 ⟨id, h⟩)

omit [Scalar α] in
/-- Of the nodes that pass a test, some one is below no other. -/
theorem exists_maximal_node {below : Node α → Node α → Prop} {test : Node α → Bool}
    (hasymm : ∀ a ∈ room.nodes.values, ∀ b ∈ room.nodes.values, below a b → ¬below b a)
    (htrans : ∀ a ∈ room.nodes.values, ∀ b ∈ room.nodes.values, ∀ c ∈ room.nodes.values,
      ¬below a b → ¬below b c → ¬below a c)
    (hsome : ∃ id node, room.nodes.get? id = some node ∧ test node = true) :
    ∃ id node, room.nodes.get? id = some node ∧ test node = true ∧
      ∀ other otherNode, room.nodes.get? other = some otherNode → test otherNode = true →
        ¬below node otherNode := by
  have hvalue : ∀ node ∈ room.nodes.values.filter test, node ∈ room.nodes.values :=
    fun _ => List.mem_of_mem_filter
  have hmem : ∀ id node, room.nodes.get? id = some node → test node = true →
      node ∈ room.nodes.values.filter test :=
    fun id _ hget htest => List.mem_filter.2 ⟨Table.mem_values.2 ⟨id, hget⟩, htest⟩
  obtain ⟨id, node, hget, htest⟩ := hsome
  obtain ⟨top, htop, hmax⟩ := exists_maximal
    (fun a ha b hb => hasymm a (hvalue a ha) b (hvalue b hb))
    (fun a ha b hb c hc => htrans a (hvalue a ha) b (hvalue b hb) c (hvalue c hc))
    (List.ne_nil_of_mem (hmem id node hget htest))
  obtain ⟨topId, hfound⟩ := Table.mem_values.1 (hvalue top htop)
  refine ⟨topId, top, hfound, (List.mem_filter.1 htop).2, ?_⟩
  intro other otherNode hother hotherTest
  exact hmax otherNode (hmem other otherNode hother hotherTest)

section Keys

variable {values : List α} {key : Node α → α} {test : Node α → Bool}
  (horder : Scalar.Orders values) (hkeys : ∀ node ∈ room.nodes.values, key node ∈ values)
  (hsome : ∃ id node, room.nodes.get? id = some node ∧ test node = true)

include horder hkeys hsome

/-- Of the nodes that pass a test, one has a key that no other of them exceeds. -/
theorem exists_top_node :
    ∃ id node, room.nodes.get? id = some node ∧ test node = true ∧
      ∀ other otherNode, room.nodes.get? other = some otherNode → test otherNode = true →
        ¬key node < key otherNode :=
  exists_maximal_node (fun a ha b hb => horder.asymm _ (hkeys a ha) _ (hkeys b hb))
    (fun a ha b hb c hc => horder.trans _ (hkeys a ha) _ (hkeys b hb) _ (hkeys c hc)) hsome

/-- Of the nodes that pass a test, one has a key that exceeds no other of them. -/
theorem exists_bottom_node :
    ∃ id node, room.nodes.get? id = some node ∧ test node = true ∧
      ∀ other otherNode, room.nodes.get? other = some otherNode → test otherNode = true →
        ¬key otherNode < key node :=
  exists_maximal_node (fun a ha b hb => horder.asymm _ (hkeys b hb) _ (hkeys a ha))
    (fun a ha b hb c hc hab hbc =>
      horder.trans _ (hkeys c hc) _ (hkeys b hb) _ (hkeys a ha) hbc hab) hsome

end Keys

theorem pressure_congr {after : Room α} (h : after.nodes = room.nodes) :
    pressure policy after id bar = pressure policy room id bar := by
  simp only [pressure, otherForwarders, countOthers, h]

end Room

end RelayMesh

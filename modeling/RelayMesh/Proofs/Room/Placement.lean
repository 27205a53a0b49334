import Mathlib.Algebra.GroupWithZero.Nat
import Mathlib.Data.List.Count
import RelayMesh.Proofs.Room.Incumbency
import RelayMesh.Proofs.Selection.Coverage

/-!
# Streams under constant load

A node that forwards relays the streams that the others relay the least, and
among those the first ones by identifier.  This file gives a room a cost that
such a choice can only lower.

* `Selection.cost` charges a stream for each time that it is relayed already,
  and for its place in the order of the identifiers.  The weight of a relay
  exceeds every place, so the cost orders streams as the choice does
  (`price_lt_price`).
* `Selection.FullLoad` is what a node may be given.  The choice is the cheapest
  of all full loads, up to order (`perm_streamsFor_or_price_lt`).
* `Room.carried` lists what the nodes of a room relay, `Room.cost` is its cost,
  and `Room.costWith` splits it at one node.
* `Room.Loaded` holds of every node after a pass (`loaded_rebalance`).  It is
  what makes the load of a node comparable with the next choice.
* `cost_decided_lt` is the step and `cost_evaluateAll` the pass: as long as the
  roles stay, whatever changes an assignment makes the room cheaper.
-/

namespace RelayMesh

/-! ## The cost of placing streams -/

namespace Selection

variable {weight : Nat} {index : String → Nat}

/-- What it takes to place streams one after the other: a stream costs its index, and a weight more
for each time that it is placed already. -/
def cost (weight : Nat) (index : String → Nat) : List String → Nat
  | [] => 0
  | stream :: rest => cost weight index rest + (weight * rest.count stream + index stream)

/-- The order of the streams does not matter. -/
theorem cost_perm {streams after : List String} (h : streams.Perm after) :
    cost weight index streams = cost weight index after := by
  induction h with
  | nil => rfl
  | cons stream hperm ih => simp only [cost, ih, hperm.count_eq]
  | swap first second rest =>
    simp only [cost, List.count_cons]
    by_cases heq : first = second
    · subst heq
      rfl
    · have hne : second ≠ first := Ne.symm heq
      simp only [beq_iff_eq, heq, hne, if_false, Nat.add_zero]
      omega
  | trans _ _ ih ih' => exact ih.trans ih'

/-- Distinct streams on top of others cost each what it costs on top of the others alone. -/
theorem cost_append {streams : List String} (hnodup : streams.Nodup) (others : List String) :
    cost weight index (streams ++ others) =
      (streams.map (fun stream => weight * others.count stream + index stream)).sum +
        cost weight index others := by
  induction streams with
  | nil => simp
  | cons stream rest ih =>
    obtain ⟨hnot, hrest⟩ := List.nodup_cons.1 hnodup
    have hcount : (rest ++ others).count stream = others.count stream := by
      rw [List.count_append, List.count_eq_zero_of_not_mem hnot, Nat.zero_add]
    rw [List.cons_append, cost, ih hrest, hcount, List.map_cons, List.sum_cons]
    omega

/-- Of all the ways to take some elements of a sorted list, the first elements cost the least, and
every other way costs more. -/
theorem perm_take_or_sum_lt {β : Type} {key : β → Nat} {sorted chosen : List β}
    (hsorted : sorted.Pairwise (fun a b => key a < key b)) (hnodup : chosen.Nodup)
    (hsub : chosen ⊆ sorted) {limit : Nat} (hlength : chosen.length = min limit sorted.length) :
    chosen.Perm (sorted.take limit) ∨
      ((sorted.take limit).map key).sum < (chosen.map key).sum := by
  induction sorted generalizing chosen limit with
  | nil =>
    left
    rw [List.eq_nil_of_subset_nil hsub]
    simp
  | cons first rest ih =>
    obtain ⟨hfirst, hrest⟩ := List.pairwise_cons.1 hsorted
    cases limit with
    | zero =>
      left
      rw [Nat.zero_min, List.length_eq_zero_iff] at hlength
      simp [hlength]
    | succ limit =>
      rw [List.length_cons, Nat.succ_min_succ] at hlength
      rw [List.take_succ_cons, List.map_cons, List.sum_cons]
      by_cases hmem : first ∈ chosen
      · -- the first element is taken, and the rest is a choice among the rest
        obtain ⟨others, hperm⟩ : ∃ others, chosen.Perm (first :: others) := by
          obtain ⟨front, back, rfl⟩ := List.append_of_mem hmem
          exact ⟨front ++ back, List.perm_middle⟩
        obtain ⟨hnot, hothers⟩ := List.nodup_cons.1 (hperm.nodup_iff.1 hnodup)
        have hsub' : others ⊆ rest := by
          intro x hx
          have hx' := hsub (hperm.symm.subset (List.mem_cons_of_mem _ hx))
          exact (List.mem_cons.1 hx').resolve_left fun heq => hnot (heq ▸ hx)
        have hlength' : others.length = min limit rest.length := by
          rw [hperm.length_eq, List.length_cons] at hlength
          omega
        have hsum := (hperm.map key).sum_nat
        rw [List.map_cons, List.sum_cons] at hsum
        rcases ih hrest hothers hsub' hlength' with hsame | hmore
        · exact Or.inl (hperm.trans (hsame.cons first))
        · right
          omega
      · -- some later element is taken in its place
        have hsub' : chosen ⊆ rest := by
          intro x hx
          exact (List.mem_cons.1 (hsub hx)).resolve_left fun heq => hmem (heq ▸ hx)
        cases chosen with
        | nil => simp at hlength
        | cons other chosen =>
          obtain ⟨hother, hchosen⟩ := List.cons_subset.1 hsub'
          rw [List.length_cons] at hlength
          have hless := hfirst other hother
          right
          rw [List.map_cons, List.sum_cons]
          rcases ih hrest (List.nodup_cons.1 hnodup).2 hchosen (Nat.succ.inj hlength) with
            hsame | hmore
          · have hsum := (hsame.map key).sum_nat
            omega
          · omega

/-! ## Prices -/

variable {streams : List StreamInfo} {covered : String → Nat} {a b : StreamInfo}

/-- How many streams come before a stream in the order of their identifiers. -/
def position (streams : List StreamInfo) (stream : String) : Nat :=
  streams.countP (fun info => decide (info.stream < stream))

/-- What a stream costs on top of streams that cover it so often. -/
def price (streams : List StreamInfo) (covered : String → Nat) (stream : String) : Nat :=
  streams.length * covered stream + position streams stream

theorem position_lt_length (ha : a ∈ streams) : position streams a.stream < streams.length :=
  List.countP_lt_length_iff.2 ⟨a, ha, by simp⟩

theorem position_lt_position (ha : a ∈ streams) (hlt : a.stream < b.stream) :
    position streams a.stream < position streams b.stream := by
  apply countP_lt_countP _ ha (by simp) (by simpa using hlt)
  intro info _ hinfo
  rw [decide_eq_true_eq] at hinfo ⊢
  exact String.lt_trans hinfo hlt

/-- What precedes in the order of the choice is cheaper. -/
theorem price_lt_price (ha : a ∈ streams) (hprecedes : Precedes covered a b)
    (hne : a.stream ≠ b.stream) :
    price streams covered a.stream < price streams covered b.stream := by
  unfold price
  rcases hprecedes with hless | ⟨heq, hle⟩
  · have hposition := position_lt_length ha
    have hproduct : streams.length * (covered a.stream + 1) ≤ streams.length * covered b.stream :=
      Nat.mul_le_mul_left _ hless
    rw [Nat.mul_succ] at hproduct
    omega
  · have hlt : a.stream < b.stream :=
      String.not_le.1 fun hge => hne (String.le_antisymm hle hge)
    have hposition := position_lt_position ha hlt
    rw [heq]
    omega

/-! ## Full loads -/

/-- Some of the streams on offer, each once, and as many as a limit allows. -/
structure FullLoad (limit : Nat) (offered chosen : List StreamInfo) : Prop where
  nodup : (chosen.map StreamInfo.stream).Nodup
  subset : chosen ⊆ offered
  length : chosen.length = min limit offered.length

variable {α : Type} {policy : Policy α} {candidate : NodeView α} {nodes : List (NodeView α)}

theorem fullLoad_streamsFor (hdistinct : streams.Pairwise (fun a b => a.stream ≠ b.stream)) :
    FullLoad (policy.streamLimit candidate) (foreign streams candidate.id)
      (streamsFor policy candidate nodes streams) where
  nodup := by
    have hordered := pairwise_ordered (hdistinct.filter (fun stream => stream.source ≠ candidate.id))
      (coverage nodes candidate)
    apply List.pairwise_map.2
    exact (hordered.sublist (List.take_sublist ..)).imp fun h => h.2
  subset stream hstream := (sortedTwice_perm _ _).mem_iff.1 (List.mem_of_mem_take hstream)
  length := by
    rw [streamsFor, List.length_take, (sortedTwice_perm _ _).length_eq]
    rfl

/-- The choice is the cheapest of all full loads. -/
theorem perm_streamsFor_or_price_lt (hdistinct : streams.Pairwise (fun a b => a.stream ≠ b.stream))
    {chosen : List StreamInfo}
    (hload : FullLoad (policy.streamLimit candidate) (foreign streams candidate.id) chosen) :
    chosen.Perm (streamsFor policy candidate nodes streams) ∨
      ((streamsFor policy candidate nodes streams).map (fun stream =>
          price streams (coverage nodes candidate) stream.stream)).sum <
        (chosen.map (fun stream => price streams (coverage nodes candidate) stream.stream)).sum := by
  have hordered := pairwise_ordered (hdistinct.filter (fun stream => stream.source ≠ candidate.id))
    (coverage nodes candidate)
  apply perm_take_or_sum_lt
  · apply hordered.imp_of_mem
    intro a b ha _ hab
    have hmem : a ∈ streams := List.mem_of_mem_filter ((sortedTwice_perm _ _).mem_iff.1 ha)
    exact price_lt_price hmem hab.1 hab.2
  · exact (List.pairwise_map.1 hload.nodup).imp fun hne heq => hne (congrArg _ heq)
  · intro stream hstream
    exact (sortedTwice_perm _ _).mem_iff.2 (hload.subset hstream)
  · rw [(sortedTwice_perm _ _).length_eq]
    exact hload.length

end Selection

/-! ## What a room relays -/

namespace Node

variable {α : Type}

/-- The streams that the node relays, if it stands ready to. -/
def carried (node : Node α) : List String :=
  if node.role.isForwarding then node.relaying.toList else []

end Node

namespace Room

variable {α : Type} {room : Room α} {id : String} {node : Node α}

/-- The streams that the nodes of the room relay, each as often as it is relayed. -/
def carried (room : Room α) : List String :=
  room.nodes.entries.flatMap (fun entry => entry.2.carried)

/-- The streams that the nodes other than one relay. -/
def carriedByOthers (room : Room α) (id : String) : List String :=
  (room.nodes.entries.filter (fun entry => entry.1 ≠ id)).flatMap (fun entry => entry.2.carried)

theorem carried_perm (hget : room.nodes.get? id = some node) :
    room.carried.Perm (node.carried ++ room.carriedByOthers id) := by
  have hperm := room.nodes.entries_insert_perm id node
  rw [Table.insert_of_get? hget] at hperm
  exact hperm.flatMap_right _

theorem carried_assigned_perm (kept : Assignment) :
    (room.assigned id node kept).carried.Perm
      ((node.assign kept.role kept.streamIds).carried ++ room.carriedByOthers id) :=
  (room.nodes.entries_insert_perm id _).flatMap_right _

theorem flatMap_filter {β γ : Type} (list : List β) (test : β → Bool) (f : β → List γ) :
    (list.filter test).flatMap f = list.flatMap (fun x => if test x then f x else []) := by
  induction list with
  | nil => rfl
  | cons x rest ih =>
    by_cases h : test x = true
    · simp [h, ih]
    · simp [h, ih]

/-- The coverage of a stream is how often the others relay it. -/
theorem coverage_nodeViews (room : Room α) (id : String) (node : Node α) :
    Selection.coverage (room.nodeViews "") (node.view id "") =
      fun stream => (room.carriedByOthers id).count stream := by
  funext stream
  rw [Selection.coverage, Selection.others, nodeViews, List.filter_map, List.filter_map,
    List.flatMap_map, flatMap_filter]
  rfl

/-- What the streams of a room cost. -/
def cost (room : Room α) : Nat :=
  Selection.cost room.streamInfos.length (Selection.position room.streamInfos) room.carried

theorem cost_congr {after : Room α} (hnodes : after.nodes = room.nodes)
    (hinfos : after.streamInfos = room.streamInfos) : after.cost = room.cost := by
  unfold cost carried
  rw [hnodes, hinfos]

/-! ## Nodes that are as a decision leaves them -/

variable [Scalar α] {policy : Policy α}

/-- A node only receives, or it relays a full load of the streams of others. -/
inductive Loaded (policy : Policy α) (infos : List StreamInfo) (id : String) (node : Node α) : Prop
  | receives (hrole : node.role = .receiver) (hrelaying : node.relaying = ∅)
  | relays (streams : List StreamInfo)
      (hload : Selection.FullLoad (policy.streamLimit (node.view id ""))
        (Selection.foreign infos id) streams)
      (hrole : node.role = if streams.isEmpty then .forwarder else .hybrid)
      (hrelaying : node.relaying = IdSet.ofList (streams.map StreamInfo.stream))

/-- The decision about a node that is admitted. -/
theorem decision_eq_relay (h : (room.decision policy id node).role.isForwarding = true) :
    room.decision policy id node =
      let streams := Selection.streamsFor policy (node.view id "") (room.nodeViews "")
        room.streamInfos
      { role := if streams.isEmpty then .forwarder else .hybrid, streams } := by
  rw [decision_isForwarding] at h
  exact Selection.choose_of_admits h

theorem loaded_decided (room : Room α) (policy : Policy α) (id : String) (node : Node α) :
    Loaded policy room.streamInfos id (node.assign (room.decision policy id node).role
      (room.decision policy id node).streamIds) := by
  cases hrole : (room.decision policy id node).role.isForwarding with
  | false =>
    rw [decision_eq_receiver hrole]
    exact .receives rfl rfl
  | true =>
    rw [decision_eq_relay hrole]
    exact .relays _ (Selection.fullLoad_streamsFor room.pairwise_streamInfos) rfl rfl

/-- A decision leaves every node loaded that was loaded before or that it is about. -/
theorem loaded_of_get?_decided {other : String} {found : Node α}
    (hfound : (room.decided policy id node).nodes.get? other = some found)
    (h : other ≠ id → room.nodes.get? other = some found →
      Loaded policy room.streamInfos other found) :
    Loaded policy room.streamInfos other found := by
  by_cases heq : other = id
  · subst heq
    rw [get?_decided_self] at hfound
    rw [← Option.some.inj hfound]
    exact loaded_decided room policy other node
  · rw [get?_decided_of_ne heq] at hfound
    exact h heq hfound

/-- What the room costs if a node relays some streams, and the others relay what they do. -/
def costWith (room : Room α) (id : String) (streams : List StreamInfo) : Nat :=
  (streams.map (fun info => Selection.price room.streamInfos
      (fun stream => (room.carriedByOthers id).count stream) info.stream)).sum +
    Selection.cost room.streamInfos.length (Selection.position room.streamInfos)
      (room.carriedByOthers id)

omit [Scalar α] in
theorem cost_append_carriedByOthers {streams : List StreamInfo}
    (hnodup : (streams.map StreamInfo.stream).Nodup) (hforwards : node.role.isForwarding = true)
    (hrelaying : node.relaying = IdSet.ofList (streams.map StreamInfo.stream)) :
    Selection.cost room.streamInfos.length (Selection.position room.streamInfos)
        (node.carried ++ room.carriedByOthers id) = room.costWith id streams := by
  have hperm : node.carried.Perm (streams.map StreamInfo.stream) := by
    unfold Node.carried
    rw [if_pos hforwards, hrelaying]
    exact IdSet.toList_ofList_perm hnodup
  rw [Selection.cost_perm (hperm.append_right _), Selection.cost_append hnodup, List.map_map]
  rfl

omit [Scalar α] in
theorem cost_eq_costWith (hget : room.nodes.get? id = some node) {streams : List StreamInfo}
    (hnodup : (streams.map StreamInfo.stream).Nodup) (hforwards : node.role.isForwarding = true)
    (hrelaying : node.relaying = IdSet.ofList (streams.map StreamInfo.stream)) :
    room.cost = room.costWith id streams := by
  rw [cost, Selection.cost_perm (carried_perm hget),
    cost_append_carriedByOthers hnodup hforwards hrelaying]

theorem cost_decided_eq_costWith
    (hadmitted : (room.decision policy id node).role.isForwarding = true) :
    (room.decided policy id node).cost =
      room.costWith id (room.decision policy id node).streams := by
  have hfull : Selection.FullLoad (policy.streamLimit (node.view id ""))
      (Selection.foreign room.streamInfos id) (room.decision policy id node).streams := by
    rw [decision_eq_relay hadmitted]
    exact Selection.fullLoad_streamsFor room.pairwise_streamInfos
  rw [cost, decided, streamInfos_assigned, Selection.cost_perm (carried_assigned_perm _),
    cost_append_carriedByOthers hfull.nodup hadmitted rfl]

/-- An admitted node is given the full load that makes the room the cheapest. -/
theorem perm_decision_or_costWith_lt
    (hadmitted : (room.decision policy id node).role.isForwarding = true)
    {streams : List StreamInfo}
    (hload : Selection.FullLoad (policy.streamLimit (node.view id ""))
      (Selection.foreign room.streamInfos id) streams) :
    streams.Perm (room.decision policy id node).streams ∨
      room.costWith id (room.decision policy id node).streams < room.costWith id streams := by
  unfold costWith
  rw [decision_eq_relay hadmitted, ← coverage_nodeViews room id node]
  exact (Selection.perm_streamsFor_or_price_lt room.pairwise_streamInfos hload).imp_right
    fun hless => Nat.add_lt_add_right hless _

/-- A decision that keeps whether a node forwards leaves the node as it is, or makes the room
cheaper. -/
theorem cost_decided_lt (hget : room.nodes.get? id = some node)
    (hloaded : Loaded policy room.streamInfos id node)
    (hkeeps : (room.decision policy id node).role.isForwarding = node.role.isForwarding) :
    node.differsFrom (room.decision policy id node).role
        (room.decision policy id node).streamIds = false ∨
      (room.decided policy id node).cost < room.cost := by
  cases hloaded with
  | receives hrole hrelaying =>
    left
    rw [hrole] at hkeeps
    rw [decision_eq_receiver hkeeps]
    simp only [Node.differsFrom, hrole, hrelaying]
    rfl
  | relays streams hload hrole hrelaying =>
    have hforwards : node.role.isForwarding = true := by
      rw [hrole]
      split <;> rfl
    have hadmitted := hkeeps.trans hforwards
    rcases perm_decision_or_costWith_lt hadmitted hload with hsame | hless
    · left
      have hids : node.relaying = IdSet.ofList (room.decision policy id node).streamIds := by
        rw [hrelaying]
        exact IdSet.ofList_congr fun stream => (hsame.map StreamInfo.stream).mem_iff
      have hroles : node.role = (room.decision policy id node).role := by
        rw [hrole, hsame.isEmpty_eq, decision_eq_relay hadmitted]
      simp [Node.differsFrom, hids, hroles]
    · right
      rw [cost_decided_eq_costWith hadmitted,
        cost_eq_costWith hget hload.nodup hforwards hrelaying]
      exact hless

/-! ## Passes -/

variable {ids : List String}

/-- After a pass every node is as a decision has left it. -/
theorem loaded_rebalance (hget : (room.rebalance policy).2.nodes.get? id = some node) :
    Loaded policy room.streamInfos id node := by
  have hinfos : (room.rebalance policy).2.streamInfos = room.streamInfos := streamInfos_rebalance
  rw [← hinfos]
  refine forall_get?_rebalance (Q := fun now id node => Loaded policy now.streamInfos id node)
    ?_ ?_ hget
  · intro now id node _
    rw [streamInfos_decided]
    exact loaded_decided now policy id node
  · intro now id node other otherNode _ _ hloaded
    rw [streamInfos_decided]
    exact hloaded

/-- A pass that keeps the roles never makes a room dearer, and it makes it cheaper if it changes
anything. -/
theorem cost_evaluateAll (hnodup : ids.Nodup)
    (hloaded : ∀ id node, room.nodes.get? id = some node → Loaded policy room.streamInfos id node)
    (hroles : ∀ id ∈ ids, (evaluateAll policy ids room).2.forwards id = room.forwards id) :
    (evaluateAll policy ids room).2.cost ≤ room.cost ∧
      ((evaluateAll policy ids room).1 ≠ [] →
        (evaluateAll policy ids room).2.cost < room.cost) := by
  induction ids generalizing room with
  | nil => exact ⟨Nat.le_refl _, fun h => absurd rfl h⟩
  | cons id rest ih =>
    obtain ⟨hnot, hrest⟩ := List.nodup_cons.1 hnodup
    cases hget : room.nodes.get? id with
    | none =>
      rw [evaluateAll_cons_of_none hget] at hroles ⊢
      exact ih hrest hloaded fun other hother => hroles other (List.mem_cons_of_mem _ hother)
    | some node =>
      have hkeeps : (room.decision policy id node).role.isForwarding = node.role.isForwarding := by
        rw [← forwards_evaluateAll_cons hnodup hget, hroles id (List.mem_cons_self ..),
          forwards_of_get? hget]
      have hinfos : (room.decided policy id node).streamInfos = room.streamInfos :=
        streamInfos_decided
      have hloaded' : ∀ other found, (room.decided policy id node).nodes.get? other = some found →
          Loaded policy (room.decided policy id node).streamInfos other found := by
        intro other found hfound
        rw [hinfos]
        exact loaded_of_get?_decided hfound fun _ => hloaded other found
      rw [evaluateAll_cons hget] at hroles ⊢
      dsimp only at hroles ⊢
      obtain ⟨hle, hless⟩ := ih hrest hloaded' fun other hother => by
        have hne : other ≠ id := fun heq => hnot (heq ▸ hother)
        rw [hroles other (List.mem_cons_of_mem _ hother), forwards, forwards,
          get?_decided_of_ne hne]
      rcases cost_decided_lt hget (hloaded id node hget) hkeeps with hsame | hcheaper
      · -- the node stays as it is, and so does the room
        have hnodes := nodes_assigned_of_not_differsFrom hget hsame
        rw [decided, cost_congr hnodes hinfos] at hle hless
        rw [hsame]
        exact ⟨hle, hless⟩
      · exact ⟨by omega, fun _ => by omega⟩

end Room

end RelayMesh

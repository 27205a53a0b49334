import Mathlib.Data.List.Count
import Mathlib.Data.List.Sort
import Mathlib.Data.Prod.Lex
import RelayMesh.Proofs.Room.Decision
import RelayMesh.Proofs.Text.ByteOrder

/-!
# Which streams are chosen

An admitted candidate is given the first streams in the order of the choice:
the streams that the fewest others relay come first, and of those the ones with
the smaller identifiers.  There are three groups.

* The order.  `filter_mergeSort` says that a sort by a key is stable, and
  `pairwise_sortedTwice` which order two stable sorts reach.  It is a strict one
  (`pairwise_ordered`), so that there is one way only to arrange the streams
  (`sortedTwice_eq_of_perm`).
* The counts.  `coverage_eq_relayers` reads the coverage of a stream as a
  number of nodes, and `choose_perm` says that no count depends on the order in
  which nodes are listed.
* The choice.  `choose_takes_least_covered` puts them together.
-/

namespace RelayMesh

namespace Selection

/-! ## The order of the choice -/

/-- Whether a stream may come before another one: it is covered less, or as often and has the
smaller identifier. -/
def Precedes (covered : String → Nat) (a b : StreamInfo) : Prop :=
  covered a.stream < covered b.stream ∨ covered a.stream = covered b.stream ∧ a.stream ≤ b.stream

variable {covered : String → Nat} {a b : StreamInfo} {offered : List StreamInfo}

instance : Decidable (Precedes covered a b) :=
  inferInstanceAs (Decidable (_ ∨ _ ∧ _))

theorem stream_eq_of_precedes (hab : Precedes covered a b) (hba : Precedes covered b a) :
    a.stream = b.stream := by
  rcases hab with hab | ⟨heq, hab⟩
  · rcases hba with hba | ⟨heq, -⟩ <;> omega
  · rcases hba with hba | ⟨-, hba⟩
    · omega
    · exact String.le_antisymm hab hba

theorem priority_le_iff :
    priority covered b ≤ priority covered a ↔ covered a.stream ≤ covered b.stream := by
  unfold priority
  omega

/-- A sort by a key is stable: it keeps items with the same key in their order. -/
theorem filter_mergeSort {β κ : Type} [LinearOrder κ] (key : β → κ) (k : κ) (items : List β) :
    (items.mergeSort (fun x y => decide (key x ≤ key y))).filter (fun x => decide (key x = k)) =
      items.filter (fun x => decide (key x = k)) := by
  have hsame : (items.filter (fun x => decide (key x = k))).Pairwise
      (fun x y => decide (key x ≤ key y) = true) := by
    rw [List.pairwise_filter]
    apply List.pairwise_of_forall
    intro x y hx hy
    rw [decide_eq_true_eq] at hx hy ⊢
    exact le_of_eq (hx.trans hy.symm)
  have hsub : (items.filter (fun x => decide (key x = k))).Sublist
      (items.mergeSort (fun x y => decide (key x ≤ key y))) := by
    apply List.sublist_mergeSort _ _ hsame List.filter_sublist
    · intro x y z hxy hyz
      rw [decide_eq_true_eq] at hxy hyz ⊢
      exact le_trans hxy hyz
    · intro x y
      simpa using le_total (key x) (key y)
  have hfiltered := hsub.filter (fun x => decide (key x = k))
  rw [List.filter_filter] at hfiltered
  simp only [Bool.and_self] at hfiltered
  have hlength := ((List.mergeSort_perm items (fun x y => decide (key x ≤ key y))).filter
    (fun x => decide (key x = k))).length_eq
  exact (hfiltered.eq_of_length hlength.symm).symm

theorem pairwise_stream_le_sortedTwice :
    (sortedTwice covered offered).Pairwise
      (fun a b => priority covered a = priority covered b → a.stream ≤ b.stream) := by
  rw [List.pairwise_iff_forall_sublist]
  intro a b hsub heq
  -- of the second sort only the streams of one priority matter, and it keeps their order
  have hkeeps : (sortedTwice covered offered).filter
        (fun info => decide (priority covered info = priority covered b)) =
      (offered.mergeSort (fun a b => decide (a.stream ≤ b.stream))).filter
        (fun info => decide (priority covered info = priority covered b)) :=
    filter_mergeSort (fun info => OrderDual.toDual (priority covered info))
      (OrderDual.toDual (priority covered b)) _
  have hfirst : (offered.mergeSort (fun a b => decide (a.stream ≤ b.stream))).Pairwise
      (fun a b => a.stream ≤ b.stream) :=
    List.pairwise_mergeSort' (fun a b => a.stream ≤ b.stream) offered
  have hpair := hsub.filter (fun info => decide (priority covered info = priority covered b))
  simp only [List.filter_cons, heq, decide_true, if_true, List.filter_nil, hkeeps] at hpair
  exact List.pairwise_iff_forall_sublist.1 (hfirst.filter _) hpair

/-- Two stable sorts reach the order of the choice. -/
theorem pairwise_sortedTwice (covered : String → Nat) (offered : List StreamInfo) :
    (sortedTwice covered offered).Pairwise (Precedes covered) := by
  have hpriority : (sortedTwice covered offered).Pairwise
      (fun a b => priority covered b ≤ priority covered a) :=
    List.pairwise_mergeSort' (fun a b => priority covered b ≤ priority covered a) _
  apply (hpriority.and pairwise_stream_le_sortedTwice).imp
  intro a b ⟨hfalls, hids⟩
  rw [priority_le_iff] at hfalls
  rcases Nat.lt_or_eq_of_le hfalls with hless | heq
  · exact Or.inl hless
  · have hsame : priority covered a = priority covered b := by
      unfold priority
      rw [heq]
    exact Or.inr ⟨heq, hids hsame⟩

/-- The streams on offer in the order of the choice. -/
theorem pairwise_ordered (hdistinct : offered.Pairwise (fun a b => a.stream ≠ b.stream))
    (covered : String → Nat) :
    (sortedTwice covered offered).Pairwise
      (fun a b => Precedes covered a b ∧ a.stream ≠ b.stream) := by
  have hnodup : (sortedTwice covered offered).Pairwise (fun a b => a.stream ≠ b.stream) :=
    ((sortedTwice_perm covered offered).pairwise_iff fun h => Ne.symm h).2 hdistinct
  exact (pairwise_sortedTwice covered offered).and hnodup

/-- The order of the choice does not depend on the order in which the streams are listed. -/
theorem sortedTwice_eq_of_perm {other : List StreamInfo}
    (hdistinct : offered.Pairwise (fun a b => a.stream ≠ b.stream)) (hperm : other.Perm offered) :
    sortedTwice covered other = sortedTwice covered offered := by
  have hdistinct' : other.Pairwise (fun a b => a.stream ≠ b.stream) :=
    (hperm.pairwise_iff fun h => Ne.symm h).2 hdistinct
  apply List.Perm.eq_of_pairwise _ (pairwise_ordered hdistinct' covered)
    (pairwise_ordered hdistinct covered)
  · exact ((sortedTwice_perm covered other).trans hperm).trans (sortedTwice_perm covered offered).symm
  · intro a b _ _ hab hba
    exact absurd (stream_eq_of_precedes hab.1 hba.1) hab.2

/-- The streams that are not a node's own. -/
def foreign (streams : List StreamInfo) (id : String) : List StreamInfo :=
  streams.filter (fun stream => stream.source ≠ id)

/-! ## Counting nodes -/

variable {α : Type} {nodes other : List (NodeView α)} {candidate : NodeView α}

/-- How many other nodes that stand ready to relay have a stream on their list. -/
def relayers (nodes : List (NodeView α)) (candidate : NodeView α) (stream : String) : Nat :=
  nodes.countP (fun node =>
    node.id ≠ candidate.id && node.role.isForwarding && decide (stream ∈ node.relaying))

/-- Where no node lists a stream twice, the coverage of a stream is a number of nodes. -/
theorem coverage_eq_relayers (hnodup : ∀ node ∈ nodes, node.relaying.Nodup) :
    coverage nodes candidate = relayers nodes candidate := by
  funext stream
  unfold coverage others relayers
  induction nodes with
  | nil => rfl
  | cons node rest ih =>
    have hrest := ih fun later hlater => hnodup later (List.mem_cons_of_mem _ hlater)
    have hcount := (hnodup node List.mem_cons_self).count (a := stream)
    rw [List.countP_cons, ← hrest, List.filter_cons]
    by_cases hid : node.id = candidate.id
    · simp [hid]
    · cases hrole : node.role.isForwarding with
      | false => simp [hid, hrole]
      | true =>
        simp only [hid, hrole, ne_eq, not_false_eq_true, decide_true, if_true, Bool.and_self,
          List.filter_cons, List.flatMap_cons, List.count_append, hcount, Bool.true_and,
          decide_eq_true_eq]
        omega

theorem others_perm (h : other.Perm nodes) : (others other candidate).Perm (others nodes candidate) :=
  h.filter _

theorem coverage_perm (h : other.Perm nodes) :
    coverage other candidate = coverage nodes candidate := by
  funext stream
  exact (((others_perm h).filter _).flatMap_right _).count_eq stream

variable [Scalar α] {policy : Policy α} {streams : List StreamInfo}

theorem admits_perm (h : other.Perm nodes) :
    admits policy other candidate = admits policy nodes candidate := by
  have hforwarders : forwarderCount other candidate = forwarderCount nodes candidate :=
    (others_perm h).countP_eq _
  have hbetter : betterCount policy other candidate = betterCount policy nodes candidate :=
    (others_perm h).countP_eq _
  unfold admits
  rw [hforwarders, hbetter, h.length_eq]

/-- The order in which nodes and streams are listed does not matter. -/
theorem choose_perm (hdistinct : streams.Pairwise (fun a b => a.stream ≠ b.stream))
    {listed : List StreamInfo} (hnodes : other.Perm nodes) (hstreams : listed.Perm streams) :
    choose policy candidate other listed = choose policy candidate nodes streams := by
  have hsame : streamsFor policy candidate other listed =
      streamsFor policy candidate nodes streams := by
    have hordered : sortedTwice (coverage nodes candidate) (foreign listed candidate.id) =
        sortedTwice (coverage nodes candidate) (foreign streams candidate.id) :=
      sortedTwice_eq_of_perm (hdistinct.filter _) (hstreams.filter _)
    unfold streamsFor
    rw [coverage_perm hnodes]
    exact congrArg (List.take (policy.streamLimit candidate)) hordered
  unfold choose
  rw [admits_perm hnodes, hsame]

/-! ## The choice -/

/-- What decides about the place of a stream: the number of other nodes that relay it, and then the
bytes of its identifier. -/
def place (nodes : List (NodeView α)) (candidate : NodeView α) (info : StreamInfo) :
    Nat ×ₗ List UInt8 :=
  toLex (relayers nodes candidate info.stream, Text.bytes info.stream)

omit [Scalar α] in
theorem place_lt_place (hprecedes : Precedes (relayers nodes candidate) a b)
    (hne : a.stream ≠ b.stream) : place nodes candidate a < place nodes candidate b := by
  rw [Prod.Lex.lt_iff]
  rcases hprecedes with hless | ⟨heq, hle⟩
  · exact Or.inl hless
  · right
    have hlt : a.stream < b.stream :=
      String.not_le.1 fun hge => hne (String.le_antisymm hle hge)
    exact ⟨heq, Text.lt_iff_bytes_lt.1 hlt⟩

omit [Scalar α] in
/-- The places are in a strict order, so only one list has the streams in the order of their
places. -/
theorem place_asymm (h : place nodes candidate a < place nodes candidate b) :
    ¬place nodes candidate b < place nodes candidate a := by
  rw [Prod.Lex.lt_iff] at h ⊢
  rintro (hless | ⟨heq, hless⟩)
  · rcases h with h | ⟨h, -⟩ <;> omega
  · rcases h with h | ⟨-, h⟩
    · omega
    · exact List.lt_asymm h hless

/-- An admitted candidate relays the first streams of the others in the order of their places, as
many as the candidate and the policy allow, and stands ready if there are none.  A candidate that is
not admitted only receives.  The order in which nodes and streams are listed does not matter. -/
theorem choose_takes_least_covered (policy : Policy α) (candidate : NodeView α)
    (nodes : List (NodeView α)) (streams : List StreamInfo)
    (hdistinct : streams.Pairwise (fun a b => a.stream ≠ b.stream))
    (hnodup : ∀ node ∈ nodes, node.relaying.Nodup) :
    (∃ order : List StreamInfo, order.Perm (streams.filter (fun info => info.source ≠ candidate.id)) ∧
      order.Pairwise (fun a b => place nodes candidate a < place nodes candidate b) ∧
      choose policy candidate nodes streams =
        if admits policy nodes candidate = true then
          let limit :=
            if 0 < policy.maxStreams then min candidate.capabilities.maxStreams policy.maxStreams
            else candidate.capabilities.maxStreams
          { role := if order.take limit = [] then .forwarder else .hybrid
            streams := order.take limit }
        else { role := .receiver, streams := [] }) ∧
    ∀ nodes' streams', nodes'.Perm nodes → streams'.Perm streams →
      choose policy candidate nodes' streams' = choose policy candidate nodes streams := by
  constructor
  · have hordered := pairwise_ordered (hdistinct.filter (fun info => info.source ≠ candidate.id))
      (relayers nodes candidate)
    refine ⟨_, sortedTwice_perm (relayers nodes candidate) _, ?_, ?_⟩
    · exact hordered.imp fun h => place_lt_place h.1 h.2
    · rw [← coverage_eq_relayers hnodup]
      split
      · rename_i hadmits
        rw [choose_of_admits hadmits]
        simp only [List.isEmpty_iff]
        rfl
      · rename_i hrejects
        exact choose_of_not_admits (Bool.eq_false_iff.2 hrejects)
  · intro nodes' streams' hnodes hstreams
    exact choose_perm hdistinct hnodes hstreams

/-- A node as it is shown, with nothing to do. -/
def shown (id : String) (role : Role) (bandwidth : Rat) (relaying : List String) : NodeView Rat where
  id
  role
  capabilities := ⟨role = .hybrid || 0 < bandwidth, 0, 2⟩
  load := { (Load.zero : Load Rat) with bandwidth }
  relaying

/-- A node with much bandwidth, a node that relays two streams, and eight that do nothing. -/
def audience : List (NodeView Rat) :=
  [shown "a" .receiver 2 [], shown "b" .hybrid 0 ["s", "u"]] ++
    ["c", "d", "e", "f", "g", "h", "i", "j"].map (fun id => shown id .receiver 0 [])

/-- The streams of the audience; the last one is the first node's own. -/
def program : List StreamInfo :=
  [⟨"s", "c", .audio⟩, ⟨"t", "c", .video⟩, ⟨"r", "d", .audio⟩, ⟨"q", "a", .audio⟩]

/-- The first node is given the two streams that nobody relays, and not the one that is covered or
its own. -/
theorem choose_takes_least_covered_program :
    program.Pairwise (fun a b => a.stream ≠ b.stream) ∧
      (∀ node ∈ audience, node.relaying.Nodup) ∧
      choose Policy.standard (shown "a" .receiver 2 []) audience program =
        { role := .hybrid, streams := [⟨"r", "d", .audio⟩, ⟨"t", "c", .video⟩] } ∧
      choose Policy.standard (shown "a" .receiver 2 []) audience.reverse program.reverse =
        choose Policy.standard (shown "a" .receiver 2 []) audience program := by
  have hdistinct : program.Pairwise (fun a b => a.stream ≠ b.stream) := by decide
  have hnodup : ∀ node ∈ audience, node.relaying.Nodup := by decide +kernel
  obtain ⟨⟨order, hperm, horder, hchoice⟩, hlisted⟩ :=
    choose_takes_least_covered Policy.standard (shown "a" .receiver 2 []) audience program
      hdistinct hnodup
  have hadmits : admits Policy.standard audience (shown "a" .receiver 2 []) = true := by
    decide +kernel
  have hplaces : order = [⟨"r", "d", .audio⟩, ⟨"t", "c", .video⟩, ⟨"s", "c", .audio⟩] := by
    apply List.Perm.eq_of_pairwise _ horder
    · have hpairs : [⟨"r", "d", .audio⟩, ⟨"t", "c", .video⟩, ⟨"s", "c", .audio⟩].Pairwise
          (fun a b => Precedes (relayers audience (shown "a" .receiver 2 [])) a b ∧
            a.stream ≠ b.stream) := by decide +kernel
      exact hpairs.imp fun h => place_lt_place h.1 h.2
    · exact hperm.trans (by decide +kernel)
    · intro a b _ _ hab hba
      exact absurd hba (place_asymm hab)
  refine ⟨hdistinct, hnodup, ?_, hlisted _ _ (List.reverse_perm _) (List.reverse_perm _)⟩
  rw [hchoice, if_pos hadmits, hplaces]
  decide +kernel

end Selection

end RelayMesh

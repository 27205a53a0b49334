import RelayMesh.Proofs.Room.Decision
import RelayMesh.Proofs.Scalar.Rounding

/-!
# A heavier load

A choice is made about a candidate twice: as it is, and with a heavier load.
Numbers are rounded as `Scalar.Rounding` says.

* `Policy.score_le` and `Policy.ranking_le`: each of the four parts of a score
  falls as the load grows, so the score and the ranking fall.
* `Selection.admits_of_worsens`: the gate gets harder to pass and no fewer nodes
  rank above, while the places and who holds them stay the same.
* `Selection.choose_eq_or_eq_receiver`: the streams of an admitted candidate do
  not depend on its load, so a heavier load keeps the assignment or loses all of
  it.
-/

namespace RelayMesh

variable {α : Type} [Scalar α]

/-! ## Scores -/

namespace Load

/-- One load is at least as heavy as another in every part. -/
structure Worsens (before after : Load α) : Prop where
  bandwidth : after.bandwidth ≤ before.bandwidth
  cpu : before.cpuPercent ≤ after.cpuPercent
  memory : before.memoryPercent ≤ after.memoryPercent
  rtt : before.rttMillis ≤ after.rttMillis
  loss : before.lossPercent ≤ after.lossPercent

variable {before after : Load α}

theorem Worsens.networkScore_le (rounding : Scalar.Rounding α) (h : before.Worsens after) :
    rounding.value after.networkScore ≤ rounding.value before.networkScore := by
  have hrtt : rounding.value (Scalar.ofNat before.rttMillis / 200 : α) ≤
      rounding.value (Scalar.ofNat after.rttMillis / 200 : α) :=
    rounding.value_div_le (rounding.ofNat_pos (by decide)) (rounding.value_ofNat_mono h.rtt)
  have hloss : rounding.value (before.lossPercent / 10) ≤ rounding.value (after.lossPercent / 10) :=
    rounding.value_div_le (rounding.ofNat_pos (by decide)) (rounding.le_iff.1 h.loss)
  have hparts := rounding.value_add_le
    (rounding.value_sub_le (a := 1) (rounding.value_atMostOne_le hrtt))
    (rounding.value_sub_le (a := 1) (rounding.value_atMostOne_le hloss))
  exact rounding.value_div_le (rounding.ofNat_pos (by decide)) hparts

end Load

namespace Policy

variable {policy : Policy α} {candidate : NodeView α} {load : Load α}

/-- The part of a score that a percentage takes away. -/
theorem value_idle_le (rounding : Scalar.Rounding α) {x y : α} (h : x ≤ y) :
    rounding.value (1 - Scalar.clampUnit (y / 100)) ≤
      rounding.value (1 - Scalar.clampUnit (x / 100)) := by
  have hshare : rounding.value (x / 100) ≤ rounding.value (y / 100) :=
    rounding.value_div_le (rounding.ofNat_pos (by decide)) (rounding.le_iff.1 h)
  exact rounding.value_sub_le (rounding.value_clampUnit_le hshare)

/-- The part of a score that the bandwidth earns. -/
theorem value_bandwidth_le (rounding : Scalar.Rounding α) (policy : Policy α) {x y : α}
    (h : x ≤ y) :
    rounding.value
        (if 0 < policy.minBandwidth then Scalar.clampUnit (x / policy.minBandwidth) else 1) ≤
      rounding.value
        (if 0 < policy.minBandwidth then Scalar.clampUnit (y / policy.minBandwidth) else 1) := by
  split
  · rename_i hpositive
    rw [rounding.lt_iff, rounding.value_zero] at hpositive
    exact rounding.value_clampUnit_le (rounding.value_div_le hpositive (rounding.le_iff.1 h))
  · exact le_refl _

/-- A heavier load does not raise the score. -/
theorem score_le (rounding : Scalar.Rounding α) (policy : Policy α)
    (h : candidate.load.Worsens load) :
    rounding.value (policy.score { candidate with load }) ≤
      rounding.value (policy.score candidate) := by
  have hbandwidth := value_bandwidth_le rounding policy h.bandwidth
  have hcpu := value_idle_le rounding h.cpu
  have hmemory := value_idle_le rounding h.memory
  have hnetwork := h.networkScore_le rounding
  have hweight := rounding.value_ofScientific_nonneg
  unfold score
  refine rounding.value_add_le (rounding.value_add_le (rounding.value_add_le ?_ ?_) ?_) ?_
  · exact rounding.value_mul_le (hweight 4 true 1) hbandwidth
  · exact rounding.value_mul_le (hweight 3 true 1) hcpu
  · exact rounding.value_mul_le (hweight 2 true 1) hmemory
  · exact rounding.value_mul_le (hweight 1 true 1) hnetwork

/-- Nor does it raise the ranking, whatever the bonus is: the role is the same. -/
theorem ranking_le (rounding : Scalar.Rounding α) (policy : Policy α)
    (h : candidate.load.Worsens load) :
    rounding.value (policy.ranking { candidate with load }) ≤
      rounding.value (policy.ranking candidate) := by
  have hscore := score_le rounding policy h
  unfold ranking
  split
  · exact rounding.value_add_le hscore (le_refl _)
  · exact hscore

/-- A node that passes the gate with a heavier load passes it with its own. -/
theorem isEligible_of_worsens (rounding : Scalar.Rounding α) (h : candidate.load.Worsens load)
    (heligible : policy.isEligible { candidate with load } = true) :
    policy.isEligible candidate = true := by
  simp only [isEligible, Capabilities.allows, Bool.and_eq_true, decide_eq_true_eq] at heligible ⊢
  obtain ⟨⟨⟨hwilling, hbandwidth⟩, hcpu⟩, hmemory⟩ := heligible
  have hle : ∀ {x y z : α}, x ≤ y → y ≤ z → x ≤ z := fun hxy hyz =>
    rounding.le_iff.2 ((rounding.le_iff.1 hxy).trans (rounding.le_iff.1 hyz))
  exact ⟨⟨⟨hwilling, hle hbandwidth h.bandwidth⟩, hle h.cpu hcpu⟩, hle h.memory hmemory⟩

end Policy

/-! ## Choices -/

namespace Selection

variable {policy : Policy α} {candidate : NodeView α} {nodes : List (NodeView α)} {load : Load α}

/-- No fewer nodes rank above a candidate with a heavier load. -/
theorem betterCount_le (rounding : Scalar.Rounding α) (h : candidate.load.Worsens load) :
    betterCount policy nodes candidate ≤ betterCount policy nodes { candidate with load } := by
  refine List.countP_mono_left fun node _ hbetter => ?_
  rw [Bool.and_eq_true, decide_eq_true_eq] at hbetter ⊢
  obtain ⟨heligible, hlt⟩ := hbetter
  rw [rounding.lt_iff] at hlt ⊢
  exact ⟨heligible, (Policy.ranking_le rounding policy h).trans_lt hlt⟩

/-- A candidate that is admitted with a heavier load is admitted with its own. -/
theorem admits_of_worsens (rounding : Scalar.Rounding α) (h : candidate.load.Worsens load)
    (hadmits : admits policy nodes { candidate with load } = true) :
    admits policy nodes candidate = true := by
  have hbetter : betterCount policy nodes candidate ≤
      betterCount policy nodes { candidate with load } := betterCount_le rounding h
  simp only [admits, Bool.and_eq_true, decide_eq_true_eq] at hadmits ⊢
  obtain ⟨⟨⟨heligible, hcompany⟩, hplace⟩, hbehind⟩ := hadmits
  have heligible' := Policy.isEligible_of_worsens rounding h heligible
  exact ⟨⟨⟨heligible', hcompany⟩, hplace⟩, hbetter.trans_lt hbehind⟩

theorem choose_eq_or_eq_receiver (rounding : Scalar.Rounding α) (policy : Policy α)
    (candidate : NodeView α) (nodes : List (NodeView α)) (streams : List StreamInfo)
    {load : Load α} (h : candidate.load.Worsens load) :
    choose policy { candidate with load } nodes streams = choose policy candidate nodes streams ∨
      choose policy { candidate with load } nodes streams = .receiver := by
  cases hadmits : admits policy nodes { candidate with load } with
  | true =>
    -- the streams are chosen without a look at the candidate's load
    left
    have hbefore := admits_of_worsens rounding h hadmits
    rw [choose_of_admits hadmits, choose_of_admits hbefore]
    rfl
  | false =>
    right
    exact choose_of_not_admits hadmits

/-- With a heavier load a candidate keeps its assignment or only receives, so a receiver stays
one. -/
theorem choose_of_worsens (rounding : Scalar.Rounding α) (policy : Policy α)
    (candidate : NodeView α) (nodes : List (NodeView α)) (streams : List StreamInfo)
    {load : Load α} (h : candidate.load.Worsens load) :
    (choose policy { candidate with load } nodes streams = choose policy candidate nodes streams ∨
      choose policy { candidate with load } nodes streams = { role := .receiver, streams := [] }) ∧
    ((choose policy candidate nodes streams).role = .receiver →
      (choose policy { candidate with load } nodes streams).role = .receiver) := by
  have hchoice := choose_eq_or_eq_receiver rounding policy candidate nodes streams h
  refine ⟨hchoice, fun hreceiver => ?_⟩
  rcases hchoice with hsame | hlost
  · rw [hsame]
    exact hreceiver
  · rw [hlost]
    rfl

/-- The load of a node with enough bandwidth that does nothing but compute. -/
def computing (cpuPercent : Rat) : Load Rat where
  bandwidth := 2
  cpuPercent
  memoryPercent := 0
  rttMillis := 0
  lossPercent := 0

/-- A node that may relay two streams. -/
def contender (id : String) (role : Role) (cpuPercent : Rat) : NodeView Rat where
  id
  role
  capabilities := ⟨true, 1, 2⟩
  load := computing cpuPercent
  relaying := []

/-- A relay that gets a little busier keeps the stream.  One that gets much busier loses it: it still
passes the gate, but the other node ranks above it by then. -/
theorem choose_of_worsens_overtaken :
    let relay := contender "a" .hybrid 0
    let nodes := [relay, contender "b" .receiver 10]
    let streams := [⟨"s", "b", .audio⟩]
    relay.load.Worsens (computing 20) ∧ relay.load.Worsens (computing 60) ∧
      choose Policy.standard { relay with load := computing 20 } nodes streams =
        { role := .hybrid, streams := [⟨"s", "b", .audio⟩] } ∧
      choose Policy.standard { relay with load := computing 60 } nodes streams =
        { role := .receiver, streams := [] } := by
  intro relay nodes streams
  have hlittle : relay.load.Worsens (computing 20) := by
    constructor <;> decide +kernel
  have hmuch : relay.load.Worsens (computing 60) := by
    constructor <;> decide +kernel
  refine ⟨hlittle, hmuch, ?_, ?_⟩
  · rcases (choose_of_worsens Scalar.exact Policy.standard relay nodes streams hlittle).1 with
      hsame | hlost
    · rw [hsame]
      decide +kernel
    · exact absurd hlost (by decide +kernel)
  · rcases (choose_of_worsens Scalar.exact Policy.standard relay nodes streams hmuch).1 with
      hsame | hlost
    · exact absurd hsame (by decide +kernel)
    · exact hlost

end Selection

end RelayMesh

import Mathlib.Algebra.Order.Field.Basic
import Mathlib.Order.Interval.Set.Defs
import Mathlib.Tactic.Linarith
import Mathlib.Tactic.NormNum
import Mathlib.Tactic.Ring
import RelayMesh.Selection
import RelayMesh.Proofs.Scalar.Rounding

/-!
# The range of scores

A score is meant to lie between zero and one, and this file says which reports keep it there, in
exact arithmetic.

Of the four parts of a score three are held between zero and one, whatever is reported
(`Policy.bandwidthPart_mem`, `Policy.idlePart_mem`).  The part for the network is held from below
only: a report of a loss below zero earns more than the whole part (`Load.networkScore_le_one_iff`).
That is the only way out of the range, and it leads as far beyond one as the other parts do not make
up for (`Policy.score_le_one_iff`).

* `scores_in_range_iff` is the result, for all reports and all policies.
-/

namespace RelayMesh

/-! ## Exact arithmetic -/

namespace Scalar

theorem atMostOne_rat (x : Rat) : atMostOne x = min x 1 :=
  exact.value_atMostOne x

theorem clampUnit_rat (x : Rat) : clampUnit x = max 0 (min x 1) :=
  exact.value_clampUnit x

theorem clampUnit_mem (x : Rat) : clampUnit x ∈ Set.Icc 0 1 := by
  rw [clampUnit_rat]
  exact ⟨le_max_left _ _, max_le zero_le_one (min_le_right _ _)⟩

end Scalar

/-! ## The part for the network -/

namespace Load

/-- The loss is not reported so far below zero that the round-trip time does not make up for it. -/
def Credible (load : Load Rat) : Prop :=
  0 ≤ min (load.rttMillis : Rat) 200 + 20 * load.lossPercent

instance (load : Load Rat) : Decidable load.Credible :=
  inferInstanceAs (Decidable (0 ≤ min (load.rttMillis : Rat) 200 + 20 * load.lossPercent))

theorem networkScore_eq (load : Load Rat) :
    load.networkScore =
      1 - (min (load.rttMillis / 200 : Rat) 1 + min (load.lossPercent / 10) 1) / 2 := by
  have hparts : load.networkScore =
      ((1 - min (load.rttMillis / 200 : Rat) 1) + (1 - min (load.lossPercent / 10) 1)) / 2 := by
    rw [← Scalar.atMostOne_rat, ← Scalar.atMostOne_rat]
    rfl
  rw [hparts]
  ring

theorem networkScore_nonneg (load : Load Rat) : 0 ≤ load.networkScore := by
  have hrtt : min (load.rttMillis / 200 : Rat) 1 ≤ 1 := min_le_right _ _
  have hloss : min (load.lossPercent / 10) 1 ≤ 1 := min_le_right _ _
  rw [networkScore_eq]
  linarith

theorem networkScore_le_one_iff (load : Load Rat) : load.networkScore ≤ 1 ↔ load.Credible := by
  have hrtt : min (load.rttMillis / 200 : Rat) 1 = min (load.rttMillis : Rat) 200 / 200 := by
    rw [← min_div_div_right (by norm_num), div_self (by norm_num)]
  have hnonneg : (0 : Rat) ≤ min (load.rttMillis : Rat) 200 :=
    le_min (Nat.cast_nonneg _) (by norm_num)
  rw [networkScore_eq, hrtt, Credible]
  -- a loss of ten percent and more counts as ten
  rcases le_total (load.lossPercent / 10) 1 with hlow | hhigh
  · rw [min_eq_left hlow]
    constructor <;> intro h <;> linarith
  · rw [min_eq_right hhigh]
    constructor <;> intro h <;> linarith

theorem networkScore_mem_iff (load : Load Rat) :
    load.networkScore ∈ Set.Icc 0 1 ↔ load.Credible := by
  rw [Set.mem_Icc, networkScore_le_one_iff]
  exact and_iff_right load.networkScore_nonneg

end Load

namespace Policy

variable (policy : Policy Rat)

/-- The part of a score for the bandwidth. -/
def bandwidthPart (bandwidth : Rat) : Rat :=
  if 0 < policy.minBandwidth then Scalar.clampUnit (bandwidth / policy.minBandwidth) else 1

/-- The part of a score for what a share in percent leaves idle. -/
def idlePart (percent : Rat) : Rat :=
  1 - Scalar.clampUnit (percent / 100)

/-- What a report does not earn of the parts other than the one for the network. -/
def shortfall (load : Load Rat) : Rat :=
  4 / 10 * (1 - policy.bandwidthPart load.bandwidth) + 3 / 10 * (1 - idlePart load.cpuPercent) +
    2 / 10 * (1 - idlePart load.memoryPercent)

theorem bandwidthPart_mem (bandwidth : Rat) : policy.bandwidthPart bandwidth ∈ Set.Icc 0 1 := by
  unfold bandwidthPart
  split
  · exact Scalar.clampUnit_mem _
  · exact ⟨zero_le_one, le_rfl⟩

theorem idlePart_mem (percent : Rat) : idlePart percent ∈ Set.Icc 0 1 := by
  obtain ⟨hnonneg, hle⟩ := Scalar.clampUnit_mem (percent / 100)
  rw [idlePart]
  exact ⟨sub_nonneg.2 hle, sub_le_self 1 hnonneg⟩

theorem shortfall_mem (load : Load Rat) : policy.shortfall load ∈ Set.Icc 0 (9 / 10) := by
  obtain ⟨hbandwidth, hbandwidth'⟩ := policy.bandwidthPart_mem load.bandwidth
  obtain ⟨hcpu, hcpu'⟩ := idlePart_mem load.cpuPercent
  obtain ⟨hmemory, hmemory'⟩ := idlePart_mem load.memoryPercent
  rw [shortfall]
  constructor <;> linarith

/-- A score is what the other parts and the part for the network leave of nine tenths and one
tenth. -/
theorem score_eq (node : NodeView Rat) :
    policy.score node = 9 / 10 - policy.shortfall node.load + node.load.networkScore / 10 := by
  have hparts : policy.score node = policy.bandwidthPart node.load.bandwidth * (0.4 : Rat) +
      idlePart node.load.cpuPercent * (0.3 : Rat) + idlePart node.load.memoryPercent * (0.2 : Rat) +
      node.load.networkScore * (0.1 : Rat) := rfl
  rw [hparts, shortfall]
  ring

theorem score_le_one_iff (node : NodeView Rat) :
    policy.score node ≤ 1 ↔ node.load.networkScore - 1 ≤ 10 * policy.shortfall node.load := by
  rw [score_eq]
  constructor <;> intro h <;> linarith

theorem score_mem_iff (node : NodeView Rat) :
    policy.score node ∈ Set.Icc 0 1 ↔
      node.load.networkScore - 1 ≤ 10 * policy.shortfall node.load := by
  rw [Set.mem_Icc, score_le_one_iff]
  refine and_iff_right ?_
  have hshortfall := (policy.shortfall_mem node.load).2
  have hnetwork := node.load.networkScore_nonneg
  rw [score_eq]
  linarith

/-- A report that earns every part of a score whole. -/
structure Perfect (load : Load Rat) : Prop where
  bandwidth : policy.minBandwidth ≤ load.bandwidth
  cpu : load.cpuPercent = 0
  memory : load.memoryPercent = 0
  rtt : load.rttMillis = 0
  loss : load.lossPercent = 0

variable {policy}

theorem Perfect.bandwidthPart_eq {load : Load Rat} (h : policy.Perfect load) :
    policy.bandwidthPart load.bandwidth = 1 := by
  unfold bandwidthPart
  split
  · rename_i hpositive
    have hle : 1 ≤ load.bandwidth / policy.minBandwidth := (one_le_div hpositive).2 h.bandwidth
    rw [Scalar.clampUnit_rat, min_eq_right hle, max_eq_right zero_le_one]
  · rfl

theorem Perfect.score_eq_one {node : NodeView Rat} (h : policy.Perfect node.load) :
    policy.score node = 1 := by
  have hidle : idlePart 0 = 1 := by decide +kernel
  have hnetwork : node.load.networkScore = 1 := by
    rw [Load.networkScore_eq, h.rtt, h.loss]
    norm_num
  rw [score_eq, shortfall, h.bandwidthPart_eq, h.cpu, h.memory, hidle, hnetwork]
  norm_num

end Policy

/-! ## The result -/

/-- The part for the network is in range exactly for a credible report, and the whole score exactly
if the other parts make up for what that part has beyond one.  So a credible report has a score in
range, and a node outranks one with a perfect report exactly if its score is out of range. -/
theorem scores_in_range_iff (policy : Policy Rat) (node : NodeView Rat) :
    (node.load.networkScore ∈ Set.Icc 0 1 ↔ node.load.Credible) ∧
    (policy.score node ∈ Set.Icc 0 1 ↔
      node.load.networkScore - 1 ≤ 10 * policy.shortfall node.load) ∧
    (node.load.Credible → policy.score node ∈ Set.Icc 0 1) ∧
    ∀ perfect : NodeView Rat, policy.Perfect perfect.load →
      (policy.score perfect < policy.score node ↔ policy.score node ∉ Set.Icc 0 1) := by
  have hscore := policy.score_mem_iff node
  refine ⟨node.load.networkScore_mem_iff, hscore, fun hcredible => ?_, fun perfect h => ?_⟩
  · have hnetwork := node.load.networkScore_le_one_iff.2 hcredible
    have hshortfall := (policy.shortfall_mem node.load).1
    rw [hscore]
    linarith
  · rw [h.score_eq_one, hscore, ← policy.score_le_one_iff, not_le]

/-- A node that has nothing to do and reports a loss. -/
def losing (lossPercent : Rat) : NodeView Rat where
  id := "n"
  role := .receiver
  capabilities := ⟨true, 0, 1⟩
  load := { bandwidth := 2, cpuPercent := 0, memoryPercent := 0, rttMillis := 0, lossPercent }
  relaying := []

/-- A loss of five percent is credible, and the score is in range.  A loss of minus a hundred is not,
and outranks a perfect report. -/
theorem scores_in_range_losing :
    (losing 5).load.Credible ∧ Policy.standard.score (losing 5) ∈ Set.Icc 0 1 ∧
    (losing (-100)).load.networkScore ∉ Set.Icc 0 1 ∧
    Policy.standard.Perfect (losing 0).load ∧
    Policy.standard.score (losing 0) < Policy.standard.score (losing (-100)) := by
  have hcredible : (losing 5).load.Credible := by decide +kernel
  have hperfect : Policy.standard.Perfect (losing 0).load := by
    constructor <;> decide +kernel
  obtain ⟨hnetwork, hscore, -, houtranks⟩ := scores_in_range_iff Policy.standard (losing (-100))
  refine ⟨hcredible, (scores_in_range_iff _ _).2.2.1 hcredible, ?_, hperfect, ?_⟩
  · rw [hnetwork]
    decide +kernel
  · rw [houtranks _ hperfect, hscore]
    decide +kernel

end RelayMesh

import Mathlib.Algebra.Order.Field.Rat
import RelayMesh.Scalar

/-!
# Exact and rounded arithmetic

`Scalar.Rounding` is what a number format is expected to do: a number stands
for a rational number, and an operation rounds the exact result, in a way that
keeps the order.  Exact arithmetic is the case in which nothing is rounded
(`Scalar.exact`).

The lemmas say how the operations of a score treat the order of their
arguments.  None of them speaks of the error that rounding makes.
-/

namespace RelayMesh

namespace Scalar

/-- Numbers that stand for rational numbers, with operations that round the exact result. -/
structure Rounding (α : Type) [Scalar α] where
  /-- The rational number that a number stands for. -/
  value : α → Rat
  /-- The number that is kept in place of a rational number. -/
  round : Rat → α
  /-- Rounding keeps the order. -/
  round_mono : ∀ {x y : Rat}, x ≤ y → value (round x) ≤ value (round y)
  round_zero : value (round 0) = 0
  lt_iff : ∀ {a b : α}, a < b ↔ value a < value b
  le_iff : ∀ {a b : α}, a ≤ b ↔ value a ≤ value b
  add_eq : ∀ a b : α, a + b = round (value a + value b)
  sub_eq : ∀ a b : α, a - b = round (value a - value b)
  mul_eq : ∀ a b : α, a * b = round (value a * value b)
  div_eq : ∀ a b : α, value b ≠ 0 → a / b = round (value a / value b)
  ofNat_eq : ∀ n : Nat, (Scalar.ofNat n : α) = round n
  /-- No whole number but zero is rounded to zero. -/
  ofNat_pos : ∀ {n : Nat}, 0 < n → 0 < value (Scalar.ofNat n)
  ofScientific_eq : ∀ (mantissa : Nat) (negative : Bool) (exponent : Nat),
    (OfScientific.ofScientific mantissa negative exponent : α) =
      round (OfScientific.ofScientific mantissa negative exponent)

/-- Rational numbers need no rounding. -/
def exact : Rounding Rat where
  value := id
  round := id
  round_mono h := h
  round_zero := rfl
  lt_iff := Iff.rfl
  le_iff := Iff.rfl
  add_eq _ _ := rfl
  sub_eq _ _ := rfl
  mul_eq _ _ := rfl
  div_eq _ _ _ := rfl
  ofNat_eq _ := rfl
  ofNat_pos h := Nat.cast_pos.2 h
  ofScientific_eq _ _ _ := rfl

namespace Rounding

variable {α : Type} [Scalar α] (rounding : Rounding α) {a b c d : α}

theorem value_zero : rounding.value (0 : α) = 0 := by
  have hzero : (0 : α) = rounding.round ((0 : Nat) : Rat) := rounding.ofNat_eq 0
  rw [hzero, Nat.cast_zero, rounding.round_zero]

theorem value_ofNat_mono {m n : Nat} (h : m ≤ n) :
    rounding.value (Scalar.ofNat m : α) ≤ rounding.value (Scalar.ofNat n : α) := by
  rw [rounding.ofNat_eq, rounding.ofNat_eq]
  exact rounding.round_mono (Nat.cast_le.2 h)

theorem value_ofScientific_nonneg (mantissa : Nat) (negative : Bool) (exponent : Nat) :
    0 ≤ rounding.value (OfScientific.ofScientific mantissa negative exponent : α) := by
  have hnonneg : 0 ≤ Rat.ofScientific mantissa negative exponent := by
    cases negative with
    | true =>
      rw [Rat.ofScientific_true_def]
      exact Rat.mkRat_nonneg (Int.natCast_nonneg mantissa) _
    | false =>
      rw [Rat.ofScientific_false_def]
      exact Nat.cast_nonneg _
  rw [rounding.ofScientific_eq, ← rounding.round_zero]
  exact rounding.round_mono hnonneg

/-! ## Operations and the order -/

theorem value_add_le (hac : rounding.value a ≤ rounding.value c)
    (hbd : rounding.value b ≤ rounding.value d) :
    rounding.value (a + b) ≤ rounding.value (c + d) := by
  rw [rounding.add_eq, rounding.add_eq]
  exact rounding.round_mono (add_le_add hac hbd)

theorem value_sub_le (h : rounding.value b ≤ rounding.value c) :
    rounding.value (a - c) ≤ rounding.value (a - b) := by
  rw [rounding.sub_eq, rounding.sub_eq]
  exact rounding.round_mono (sub_le_sub_left h _)

theorem value_mul_le (hc : 0 ≤ rounding.value c) (h : rounding.value a ≤ rounding.value b) :
    rounding.value (a * c) ≤ rounding.value (b * c) := by
  rw [rounding.mul_eq, rounding.mul_eq]
  exact rounding.round_mono (mul_le_mul_of_nonneg_right h hc)

theorem value_div_le (hc : 0 < rounding.value c) (h : rounding.value a ≤ rounding.value b) :
    rounding.value (a / c) ≤ rounding.value (b / c) := by
  rw [rounding.div_eq _ _ hc.ne', rounding.div_eq _ _ hc.ne']
  exact rounding.round_mono (div_le_div_of_nonneg_right h hc.le)

theorem value_atMostOne (a : α) :
    rounding.value (atMostOne a) = min (rounding.value a) (rounding.value (1 : α)) := by
  unfold atMostOne
  split
  · rename_i hlt
    exact (min_eq_left (rounding.lt_iff.1 hlt).le).symm
  · rename_i hnot
    rw [rounding.lt_iff, not_lt] at hnot
    exact (min_eq_right hnot).symm

theorem value_clampUnit (a : α) :
    rounding.value (clampUnit a) = max 0 (min (rounding.value a) (rounding.value (1 : α))) := by
  have hone : rounding.value (0 : α) ≤ rounding.value (1 : α) :=
    rounding.value_ofNat_mono (Nat.zero_le 1)
  rw [rounding.value_zero] at hone
  unfold clampUnit
  split
  · rename_i hneg
    rw [rounding.lt_iff, rounding.value_zero] at hneg
    rw [rounding.value_zero, max_eq_left]
    exact (min_le_left _ _).trans hneg.le
  · rename_i hnonneg
    rw [rounding.lt_iff, rounding.value_zero, not_lt] at hnonneg
    rw [max_eq_right (le_min hnonneg hone)]
    split
    · rename_i habove
      exact (min_eq_right (rounding.lt_iff.1 habove).le).symm
    · rename_i hbelow
      rw [rounding.lt_iff, not_lt] at hbelow
      exact (min_eq_left hbelow).symm

theorem value_atMostOne_le (h : rounding.value a ≤ rounding.value b) :
    rounding.value (atMostOne a) ≤ rounding.value (atMostOne b) := by
  rw [rounding.value_atMostOne, rounding.value_atMostOne]
  exact min_le_min_right _ h

theorem value_clampUnit_le (h : rounding.value a ≤ rounding.value b) :
    rounding.value (clampUnit a) ≤ rounding.value (clampUnit b) := by
  rw [rounding.value_clampUnit, rounding.value_clampUnit]
  exact max_le_max_left _ (min_le_min_right _ h)

end Rounding

end Scalar

end RelayMesh

/-!
# The shortest decimal of a binary number

A positive `Float` is `mantissa · 2 ^ exponent` with whole numbers, and the
decimals that read back as it form an interval around it, which holds its
ends exactly when the mantissa is even.  `shortest` returns the decimal
`digits · 10 ^ exponent` of this interval that has the fewest digits and,
among those, lies nearest; of two equally near ones it is the one with even
digits.

The search is exact arithmetic on natural numbers.  For each count of digits
from 1 to 17 only the two neighbours of the number on that decimal grid can
be the answer.
-/

namespace RelayMesh.Decimal

/-- A number `mantissa · 2 ^ exponent` as stored in 64 bits. -/
structure Binary where
  mantissa : Nat
  exponent : Int
  /-- Whether the next smaller stored number is only half as far away as the next larger one. -/
  narrowBelow : Bool

/-- A decimal `digits · 10 ^ exponent`. -/
structure Scientific where
  digits : Nat
  exponent : Int
deriving Repr, DecidableEq

/-- The magnitude of a finite number. -/
def Binary.ofFloat (x : Float) : Binary :=
  let bits := x.toBits.toNat % Nat.pow 2 63
  let field := bits / Nat.pow 2 52
  let fraction := bits % Nat.pow 2 52
  if field = 0 then ⟨fraction, -1074, false⟩
  else ⟨Nat.pow 2 52 + fraction, Int.ofNat field - 1075, fraction = 0 && 1 < field⟩

/-- A positive fraction. -/
structure Ratio where
  numerator : Nat
  denominator : Nat

/-- A fraction times `base ^ exponent`. -/
def Ratio.shift (r : Ratio) (base : Nat) (exponent : Int) : Ratio :=
  if exponent < 0 then ⟨r.numerator, r.denominator * Nat.pow base exponent.natAbs⟩
  else ⟨r.numerator * Nat.pow base exponent.natAbs, r.denominator⟩

/-- The largest exponent of ten whose power is at most `r`, found from an
estimate that is off by at most one. -/
def Ratio.magnitude (r : Ratio) : Int :=
  let estimate := (Int.ofNat r.numerator.log2 - Int.ofNat r.denominator.log2) * 30103 / 100000
  let reaches (e : Int) : Bool :=
    let scaled := r.shift 10 (-e)
    scaled.denominator ≤ scaled.numerator
  if reaches (estimate + 1) then estimate + 1
  else if reaches estimate then estimate
  else estimate - 1

/-- The nearest point of the grid of multiples of `10 ^ exponent` that reads back as `b`, if any.
A quarter of the last binary place is the unit in which the interval is measured. -/
def Binary.onGrid (b : Binary) (exponent : Int) : Option Scientific :=
  let unit := (Ratio.mk 1 1).shift 2 (b.exponent - 2) |>.shift 10 (-exponent)
  let value := 4 * b.mantissa * unit.numerator
  let low := (4 * b.mantissa - (if b.narrowBelow then 1 else 2)) * unit.numerator
  let high := (4 * b.mantissa + 2) * unit.numerator
  let readsBack (digits : Nat) : Bool :=
    let point := digits * unit.denominator
    if b.mantissa % 2 = 0 then low ≤ point && point ≤ high else low < point && point < high
  let floor := value / unit.denominator
  let gapBelow := value - floor * unit.denominator
  let gapAbove := (floor + 1) * unit.denominator - value
  let floorFirst := gapBelow < gapAbove || (gapBelow = gapAbove && floor % 2 = 0)
  let candidates := if floorFirst then [floor, floor + 1] else [floor + 1, floor]
  (candidates.find? (fun digits => 0 < digits && readsBack digits)).map (⟨·, exponent⟩)

/-- The same decimal without trailing zeros; `fuel` bounds their number. -/
def Scientific.normalize : Nat → Scientific → Scientific
  | 0, s => s
  | fuel + 1, s =>
    if s.digits ≠ 0 ∧ s.digits % 10 = 0 then normalize fuel ⟨s.digits / 10, s.exponent + 1⟩ else s

/-- The shortest decimal that reads back as the magnitude of a finite, nonzero number. -/
def shortest (x : Float) : Scientific :=
  let b := Binary.ofFloat x
  let top := ((Ratio.mk b.mantissa 1).shift 2 b.exponent).magnitude
  let found := (List.range 17).findSome? (fun count : Nat => b.onGrid (top - Int.ofNat count))
  (found.getD ⟨0, 0⟩).normalize 17

end RelayMesh.Decimal

/-!
# The arithmetic of scores

Reports, limits and scores are numbers of a type `α` with the four operations
and two comparisons.  The program computes with `Float`; the laws that need
exact arithmetic are stated over `Rat`, and the laws that need only an order
over any lawful `Scalar`.

Every formula fixes the order of its operations, because the operations of
`Float` round.
-/

namespace RelayMesh

/-- Numbers with the operations that scores are computed with. -/
class Scalar (α : Type) extends Add α, Sub α, Mul α, Div α, LT α, LE α, OfScientific α where
  ofNat : Nat → α
  decidableLT : DecidableLT α
  decidableLE : DecidableLE α

namespace Scalar

variable {α : Type} [Scalar α]

instance (priority := low) : DecidableLT α := Scalar.decidableLT

instance (priority := low) : DecidableLE α := Scalar.decidableLE

instance (priority := low) (n : Nat) : OfNat α n := ⟨Scalar.ofNat n⟩

/-- The value, or one where the value is not below one. -/
def atMostOne (x : α) : α :=
  if x < 1 then x else 1

/-- The nearest value between zero and one; a value that no comparison holds for stays. -/
def clampUnit (x : α) : α :=
  if x < 0 then 0 else if 1 < x then 1 else x

end Scalar

instance : Scalar Float where
  ofNat := Float.ofNat
  decidableLT := inferInstance
  decidableLE := inferInstance

instance : Scalar Rat where
  ofNat n := n
  decidableLT := inferInstance
  decidableLE := inferInstance

end RelayMesh

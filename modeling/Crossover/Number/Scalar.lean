/-!
# Scalars

Prices, quantities and balances are written over an abstract scalar, so that one definition of
an average, a budget or a profit serves two readings: binary64 when a session runs, exact
rationals when its laws are stated. A scalar has the four operations, three decidable
comparisons, the value of a count, and `sumStart`, the value of an empty sum. The two readings
differ there: binary64 sums start from negative zero, the only start that leaves every first
term as it is.
-/

namespace Crossover

class Scalar (α : Type) extends Add α, Sub α, Mul α, Div α where
  zero : α
  sumStart : α
  ofCount : Nat → α
  less : α → α → Bool
  atMost : α → α → Bool
  same : α → α → Bool

namespace Scalar

variable {α : Type} [Scalar α]

/-- Adds from the left, starting from `sumStart`. -/
def sum (xs : List α) : α :=
  xs.foldl (· + ·) sumStart

end Scalar

instance : Scalar Float where
  zero := 0.0
  sumStart := -0.0
  ofCount := Float.ofNat
  less a b := a < b
  atMost a b := a ≤ b
  same a b := a == b

instance : Scalar Rat where
  zero := 0
  sumStart := 0
  ofCount n := n
  less a b := a < b
  atMost a b := a ≤ b
  same a b := a == b

end Crossover

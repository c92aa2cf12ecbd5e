import Mathlib.Algebra.BigOperators.Group.List.Basic
import Mathlib.Algebra.Order.Field.Rat
import Crossover.Number.Scalar

/-!
# Exact scalars

Read as rational numbers, the scalars are the numbers themselves, and their comparisons and sums
are the usual ones.
-/

namespace Crossover.Scalar

@[simp] theorem zero_rat : (Scalar.zero : Rat) = 0 := rfl

@[simp] theorem ofCount_rat (n : Nat) : (Scalar.ofCount n : Rat) = n := rfl

@[simp] theorem less_rat (a b : Rat) : Scalar.less a b = decide (a < b) := rfl

@[simp] theorem atMost_rat (a b : Rat) : Scalar.atMost a b = decide (a ≤ b) := rfl

@[simp] theorem same_rat (a b : Rat) : Scalar.same a b = decide (a = b) :=
  beq_eq_decide a b

theorem sum_rat (xs : List Rat) : Scalar.sum xs = xs.sum := by
  rw [List.sum_eq_foldl]
  rfl

end Crossover.Scalar

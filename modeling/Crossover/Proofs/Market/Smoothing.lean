import Mathlib.Algebra.Order.Field.Rat
import Mathlib.Analysis.Convex.Combination
import Mathlib.Tactic.Linarith
import Mathlib.Tactic.Positivity
import Crossover.Proofs.Market.Exponential
import Crossover.Proofs.Number.Exact

/-!
# The exponential average over exact numbers

Over the rationals the exponential average starts from a mean and goes a part of the way, above
nothing and at most all of it, from where it is to the new close. So it stays in every convex set
that holds the closes. In particular, over closes that do not rise it never falls below the last
close, and once the window is full it does not rise.
-/

namespace Crossover

theorem mean_rat {xs : List Rat} (h : xs ≠ []) : mean xs = xs.sum / xs.length := by
  have hempty : xs.isEmpty = false := by simpa using h
  simp only [mean, hempty, Scalar.sum_rat, Scalar.ofCount_rat]
  rfl

/-- A mean lies in every convex set that holds the numbers. -/
theorem mean_mem {S : Set Rat} (hS : Convex Rat S) {xs : List Rat} (hne : xs ≠ [])
    (h : ∀ x ∈ xs, x ∈ S) : mean xs ∈ S := by
  have hlength : (xs.length : Rat) ≠ 0 := by
    exact_mod_cast (List.length_pos_iff.mpr hne).ne'
  have hweighted : mean xs = ∑ i : Fin xs.length, (xs.length : Rat)⁻¹ • xs.get i := by
    rw [mean_rat hne, ← Finset.smul_sum, ← List.sum_ofFn, List.ofFn_get, smul_eq_mul,
      div_eq_inv_mul]
  rw [hweighted]
  apply hS.sum_mem
  · intro i _
    positivity
  · rw [Finset.sum_const, Finset.card_univ, Fintype.card_fin, nsmul_eq_mul,
      mul_inv_cancel₀ hlength]
  · intro i _
    exact h _ (List.get_mem xs i)

namespace Exponential

variable {window : Nat} {average close : Rat} {closes : List Rat}

theorem pull_rat (window : Nat) : (pull window : Rat) = 2 / (window + 1) := by
  simp only [pull, Scalar.ofCount_rat]
  norm_num

theorem pull_pos (window : Nat) : (0 : Rat) < pull window := by
  rw [pull_rat]
  positivity

theorem pull_le_one (h : 1 ≤ window) : (pull window : Rat) ≤ 1 := by
  have hwindow : (1 : Rat) ≤ window := by exact_mod_cast h
  rw [pull_rat, div_le_one (by linarith)]
  linarith

section Convex

variable {S : Set Rat} (hS : Convex Rat S) (hw : 1 ≤ window)

include hS hw

theorem toward_mem (haverage : average ∈ S) (hclose : close ∈ S) :
    toward window average close ∈ S := by
  have hway : toward window average close =
      average + (pull window : Rat) • (close - average) := by
    rw [toward, smul_eq_mul, mul_comm, add_comm]
  rw [hway]
  exact hS.add_smul_sub_mem haverage hclose ⟨(pull_pos window).le, pull_le_one hw⟩

/-- The average lies in every convex set that holds the closes. -/
theorem value_mem (h : ∀ x ∈ closes, x ∈ S) (hfull : window ≤ closes.length) :
    value window closes ∈ S := by
  have hfirst : closes.take window ≠ [] := by
    rw [← List.length_pos_iff, List.length_take]
    omega
  rw [value, if_neg (by omega)]
  apply List.foldlRecOn (motive := (· ∈ S))
  · exact mean_mem hS hfirst fun x hx => h x (List.mem_of_mem_take hx)
  · intro average haverage close hclose
    exact toward_mem hS hw haverage (h close (List.mem_of_mem_drop hclose))

end Convex

/-- From above, the average moves down. -/
theorem toward_le (h : close ≤ average) : toward window average close ≤ average := by
  have hdown : (close - average) * pull window ≤ 0 :=
    mul_nonpos_of_nonpos_of_nonneg (sub_nonpos.mpr h) (pull_pos window).le
  unfold toward
  linarith

section Falling

theorem last_le_of_mem (h : (closes ++ [close]).Pairwise (· ≥ ·)) :
    ∀ x ∈ closes ++ [close], close ≤ x := by
  intro x hx
  rcases List.mem_append.mp hx with hx | hx
  · exact (List.pairwise_append.mp h).2.2 x hx close (List.mem_singleton_self close)
  · exact (List.mem_singleton.mp hx).ge

/-- Over closes that do not rise, the average is not below the last one. -/
theorem last_le_value (hw : 1 ≤ window) (h : (closes ++ [close]).Pairwise (· ≥ ·))
    (hfull : window ≤ closes.length + 1) : close ≤ value window (closes ++ [close]) := by
  have hlength : window ≤ (closes ++ [close]).length := by simpa using hfull
  exact value_mem (convex_Ici close) hw (last_le_of_mem h) hlength

/-- Over closes that do not rise, the average does not rise once its window is full. -/
theorem value_concat_le (hw : 1 ≤ window) (h : (closes ++ [close]).Pairwise (· ≥ ·))
    (hfull : window ≤ closes.length) : value window (closes ++ [close]) ≤ value window closes := by
  rcases List.eq_nil_or_concat' closes with rfl | ⟨earlier, before, rfl⟩
  · rw [List.length_nil] at hfull
    omega
  · have hclose : close ≤ before := last_le_of_mem h before (by simp)
    have hbefore := last_le_value hw (List.pairwise_append.mp h).1 (by simpa using hfull)
    rw [value_concat hfull]
    exact toward_le (hclose.trans hbefore)

end Falling

end Exponential

end Crossover

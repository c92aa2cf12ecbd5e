import Crossover.Proofs.Market.FromScratch
import Crossover.Proofs.Market.Smoothing

/-!
# When the crossover rule is ready

Zero stands for "not enough bars". An average of positive closes is positive, so over positive
closes an exponential average is zero exactly while its window is not full, and the rule is ready
exactly when it has kept as many bars as both windows and the warming period ask for. Before that
it advises nothing, whatever the closes are.
-/

namespace Crossover

namespace Exponential

variable {window : Nat} {closes : List Rat}

theorem value_pos (hw : 1 ≤ window) (h : ∀ x ∈ closes, 0 < x) (hfull : window ≤ closes.length) :
    0 < value window closes :=
  value_mem (convex_Ioi 0) hw h hfull

/-- Over positive closes no average is mistaken for the zero that stands before the first one. -/
theorem value_ne_zero_iff (hw : 1 ≤ window) (h : ∀ x ∈ closes, 0 < x) :
    value window closes ≠ 0 ↔ window ≤ closes.length := by
  constructor
  · intro hne
    by_contra hshort
    exact hne (value_of_lt (not_le.mp hshort))
  · intro hfull
    exact (value_pos hw h hfull).ne'

end Exponential

theorem closesOf_pos {bars : List (Candle Rat)} (h : ∀ c ∈ bars, 0 < c.closePrice) :
    ∀ x ∈ closesOf bars, 0 < x := by
  intro x hx
  obtain ⟨c, hc, rfl⟩ := List.mem_map.mp hx
  exact h c hc

namespace CrossoverState

variable {fastWindow slowWindow warming : Nat} {kept : List (Candle Rat)}

theorem heldBack_eq_false :
    heldBack fastWindow slowWindow warming kept = false ↔
      Exponential.value fastWindow (closesOf kept) ≠ 0 ∧
        Exponential.value slowWindow (closesOf kept) ≠ 0 ∧ warming ≤ kept.length := by
  simp only [heldBack, Bool.or_eq_false_iff, Scalar.same_rat, Scalar.zero_rat,
    decide_eq_false_iff_not, not_lt, and_assoc, ne_eq]

/-- Whatever the closes are, the rule is held back until all the bars it asks for are kept. -/
theorem max_le_length_of_not_heldBack
    (h : heldBack fastWindow slowWindow warming kept = false) :
    max (max fastWindow slowWindow) warming ≤ kept.length := by
  obtain ⟨hfast, hslow, hwarm⟩ := heldBack_eq_false.mp h
  have hfilled {window : Nat} (hne : Exponential.value window (closesOf kept) ≠ 0) :
      window ≤ kept.length := by
    by_contra hshort
    apply hne
    exact Exponential.value_of_lt (by simpa using hshort)
  exact max_le (max_le (hfilled hfast) (hfilled hslow)) hwarm

theorem heldBack_eq_false_iff (hfast : 1 ≤ fastWindow) (hslow : 1 ≤ slowWindow)
    (hpositive : ∀ c ∈ kept, 0 < c.closePrice) :
    heldBack fastWindow slowWindow warming kept = false ↔
      max (max fastWindow slowWindow) warming ≤ kept.length := by
  have hcloses := closesOf_pos hpositive
  rw [heldBack_eq_false, Exponential.value_ne_zero_iff hfast hcloses,
    Exponential.value_ne_zero_iff hslow hcloses, length_closesOf]
  omega

/-- An advice is given only for a bar that is kept, and only if the rule is not held back then. -/
theorem not_heldBack_of_advice {bar : Candle Rat} {side : Side} {action : Action}
    (h : ((fromScratch fastWindow slowWindow warming kept).advise bar).1 = .advice side action) :
    ¬ bar.Repeats kept ∧ heldBack fastWindow slowWindow warming (kept ++ [bar]) = false := by
  by_cases hrepeats : bar.Repeats kept
  · rw [advise_repeated hrepeats] at h
    cases h
  · refine ⟨hrepeats, ?_⟩
    rw [advise_kept hrepeats] at h
    by_contra hheld
    rw [Bool.not_eq_false] at hheld
    rw [signalFromScratch, if_pos hheld] at h
    cases h

/-- Over positive closes an average of the rule is zero exactly while fewer bars are kept than its
window holds, and the rule is ready exactly when as many are kept as both windows and the warming
period ask for. No advice is given for a bar with which fewer are kept, however often bars were
repeated. -/
theorem ready_iff_bars_kept (fastWindow slowWindow warming : Nat) (hfast : 1 ≤ fastWindow)
    (hslow : 1 ≤ slowWindow) (bars : List (Candle Rat))
    (hpositive : ∀ c ∈ keptBars bars, 0 < c.closePrice) :
    let r := (crossoverRule Rat).after (.exponential fastWindow slowWindow warming) bars
    r.series.toList = keptBars bars ∧
      (r.fast.value ≠ 0 ↔ fastWindow ≤ r.series.size) ∧
      (r.slow.value ≠ 0 ↔ slowWindow ≤ r.series.size) ∧
      (r.isReady = true ↔ max (max fastWindow slowWindow) warming ≤ r.series.size) ∧
      ∀ bar side action, ((crossoverRule Rat).advise r bar).1 = .advice side action →
        max (max fastWindow slowWindow) warming ≤ (keptBars (bars ++ [bar])).length := by
  intro r
  have hr : r = fromScratch fastWindow slowWindow warming (keptBars bars) :=
    after_eq_fromScratch fastWindow slowWindow warming bars
  have hcloses := closesOf_pos hpositive
  have hfilled {window : Nat} (hw : 1 ≤ window) :
      Exponential.value window (closesOf (keptBars bars)) ≠ 0 ↔
        window ≤ (keptBars bars).length := by
    rw [Exponential.value_ne_zero_iff hw hcloses, length_closesOf]
  rw [hr]
  refine ⟨rfl, hfilled hfast, hfilled hslow, ?_, ?_⟩
  · rw [isReady_fromScratch, Bool.not_eq_true']
    exact heldBack_eq_false_iff hfast hslow hpositive
  · intro bar side action hadvice
    obtain ⟨hnew, hready⟩ := not_heldBack_of_advice hadvice
    rw [keptBars_concat_of_new hnew]
    exact max_le_length_of_not_heldBack hready

/-- The third bar that is kept fills the slow window, though it is the fourth that was shown. -/
theorem ready_at_third_bar :
    let bar (hour : Int) (closePrice : Rat) : Candle Rat :=
      { Candle.blank with openTime := .ofMillis (hour * 3600000), closePrice }
    let bars := [bar 0 10, bar 1 11, bar 1 90, bar 2 12]
    let r := (crossoverRule Rat).after (.exponential 2 3 3) bars
    (∀ c ∈ keptBars bars, 0 < c.closePrice) ∧ r.isReady = true := by
  intro bar bars r
  have hpositive : ∀ c ∈ keptBars bars, 0 < c.closePrice := by decide +kernel
  have hready := ready_iff_bars_kept 2 3 3 (by omega) (by omega) bars hpositive
  have hkept : max (max 2 3) 3 ≤ r.series.size := by
    rw [← Series.length_toList, hready.1]
    decide +kernel
  exact ⟨hpositive, hready.2.2.2.1.mpr hkept⟩

end CrossoverState

end Crossover

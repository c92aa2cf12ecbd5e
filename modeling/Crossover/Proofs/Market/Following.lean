import Crossover.Proofs.Market.FromScratch
import Crossover.Proofs.Market.Smoothing

/-!
# The exponential average follows the closes

Each close draws the average towards it, all the way at most and by something at least, if it is
not there already. So once its window is full the average lies between the smallest and the
largest close so far, and with each further close it comes closer to that close.
-/

namespace Crossover

namespace Exponential

variable {window : Nat} {average close : Rat} {closes : List Rat}

theorem toward_sub_average : toward window average close - average =
    (close - average) * pull window := by
  rw [toward, add_sub_cancel_right]

theorem close_sub_toward : close - toward window average close =
    (1 - pull window) * (close - average) := by
  rw [toward]
  ring

/-- The average stays where it is only for a close that is there too. -/
theorem toward_eq_average_iff : toward window average close = average ↔ close = average := by
  have hpull : (pull window : Rat) ≠ 0 := (pull_pos window).ne'
  rw [← sub_eq_zero, toward_sub_average, mul_eq_zero, or_iff_left hpull, sub_eq_zero]

/-- Part of the way to the close is gone, however short. -/
theorem abs_close_sub_toward_lt (hw : 1 ≤ window) (h : close ≠ average) :
    |close - toward window average close| < |close - average| := by
  have hleft : (0 : Rat) ≤ 1 - pull window := sub_nonneg.mpr (pull_le_one hw)
  have hless : (1 : Rat) - pull window < 1 := sub_lt_self 1 (pull_pos window)
  rw [close_sub_toward, abs_mul, abs_of_nonneg hleft]
  exact mul_lt_of_lt_one_left (abs_pos.mpr (sub_ne_zero.mpr h)) hless

/-- What a close does to an average: it draws it closer, not beyond itself, unless the average is
there already. -/
structure Draws (close before after : Rat) : Prop where
  mem_uIcc : after ∈ Set.uIcc before close
  eq_iff : after = before ↔ close = before
  closer : close ≠ before → |close - after| < |close - before|

theorem draws_toward (hw : 1 ≤ window) (average close : Rat) :
    Draws close average (toward window average close) where
  mem_uIcc := toward_mem (convex_uIcc average close) hw Set.left_mem_uIcc Set.right_mem_uIcc
  eq_iff := toward_eq_average_iff
  closer := abs_close_sub_toward_lt hw

/-- The average lies between the smallest and the largest close. -/
theorem value_mem_Icc (hw : 1 ≤ window) (hfull : window ≤ closes.length) :
    ∃ least greatest, closes.min? = some least ∧ closes.max? = some greatest ∧
      value window closes ∈ Set.Icc least greatest := by
  have hsome : closes ≠ [] := by
    rw [← List.length_pos_iff]
    omega
  obtain ⟨least, hleast⟩ := Option.isSome_iff_exists.mp (List.isSome_min?_of_ne_nil hsome)
  obtain ⟨greatest, hgreatest⟩ := Option.isSome_iff_exists.mp (List.isSome_max?_of_ne_nil hsome)
  have hbelow := (List.min?_eq_some_iff.mp hleast).2
  have habove := (List.max?_eq_some_iff.mp hgreatest).2
  have hbetween : ∀ x ∈ closes, x ∈ Set.Icc least greatest :=
    fun x hx => ⟨hbelow x hx, habove x hx⟩
  exact ⟨least, greatest, hleast, hgreatest, value_mem (convex_Icc _ _) hw hbetween hfull⟩

end Exponential

namespace Indicator

/-- Advanced once after each bar added to an empty series, the indicator is the one over the bars
of the series. -/
theorem along_exponential {α : Type} [Scalar α] (window : Nat) (bars : List (Candle α)) :
    along (.start .exponential window) bars =
      (.ofList (keptBars bars), exponentialOver window (keptBars bars)) := by
  rw [start_exponential]
  exact along_eq (advance_exponentialOver window) bars

theorem value_exponentialOver_concat {window : Nat} (kept : List (Candle Rat)) (bar : Candle Rat)
    (hfull : window ≤ kept.length) :
    (exponentialOver window (kept ++ [bar])).value =
      Exponential.toward window (exponentialOver window kept).value bar.closePrice := by
  show Exponential.value window (closesOf (kept ++ [bar])) = _
  rw [closesOf_concat, Exponential.value_concat (by simpa using hfull)]
  rfl

/-- An exponential indicator that is advanced once after each bar added to a series lies between
the smallest and the largest close of the series as soon as its window is full. From then on each
further close draws it closer. -/
theorem follows_closes (window : Nat) (hw : 1 ≤ window) (bars : List (Candle Rat)) :
    let now := along (.start .exponential window) bars
    now.1.toList = keptBars bars ∧
      (window ≤ now.1.size → ∃ least greatest,
        now.1.closes.min? = some least ∧ now.1.closes.max? = some greatest ∧
          least ≤ now.2.value ∧ now.2.value ≤ greatest) ∧
      ∀ bar : Candle Rat, ¬ bar.Repeats (keptBars bars) → window ≤ now.1.size →
        let next := along (.start .exponential window) (bars ++ [bar])
        next.1.toList = now.1.toList ++ [bar] ∧
          Exponential.Draws bar.closePrice now.2.value next.2.value := by
  intro now
  have hnow : now = (.ofList (keptBars bars), exponentialOver window (keptBars bars)) :=
    along_exponential window bars
  rw [hnow]
  refine ⟨rfl, fun hfull => ?_, fun bar hnew hfull => ?_⟩
  · exact Exponential.value_mem_Icc hw (by simpa [Series.closes] using hfull)
  · intro next
    have hnext : next =
        (.ofList (keptBars bars ++ [bar]), exponentialOver window (keptBars bars ++ [bar])) := by
      rw [← keptBars_concat_of_new hnew]
      exact along_exponential window (bars ++ [bar])
    have hvalue := value_exponentialOver_concat (keptBars bars) bar hfull
    have hdraws := Exponential.draws_toward hw (exponentialOver window (keptBars bars)).value
      bar.closePrice
    rw [← hvalue] at hdraws
    rw [hnext]
    exact ⟨rfl, hdraws⟩

/-- Over closes of one, two and three, with a bar of ninety that came twice, the average is one of
the numbers from one to three. A close of ten then draws it upwards. -/
theorem drawn_upwards_by_ten :
    let bar (hour : Int) (closePrice : Rat) : Candle Rat :=
      { Candle.blank with openTime := .ofMillis (hour * 3600000), closePrice }
    let bars := [bar 0 1, bar 1 2, bar 1 90, bar 2 3]
    let now := along (.start .exponential 3) bars
    let next := along (.start .exponential 3) (bars ++ [bar 3 10])
    (3 ≤ now.1.size ∧ 1 ≤ now.2.value ∧ now.2.value ≤ 3) ∧
      ¬ (bar 3 10).Repeats (keptBars bars) ∧ Exponential.Draws 10 now.2.value next.2.value := by
  intro bar bars now next
  have hfull : 3 ≤ now.1.size := by decide +kernel
  have hnew : ¬ (bar 3 10).Repeats (keptBars bars) := by decide +kernel
  have hfollows := follows_closes 3 (by decide) bars
  obtain ⟨least, greatest, hleast, hgreatest, hle, hge⟩ := hfollows.2.1 hfull
  have hone : least = 1 := by
    have hmin : now.1.closes.min? = some 1 := by decide +kernel
    exact Option.some.inj (hleast.symm.trans hmin)
  have hthree : greatest = 3 := by
    have hmax : now.1.closes.max? = some 3 := by decide +kernel
    exact Option.some.inj (hgreatest.symm.trans hmax)
  exact ⟨⟨hfull, hone ▸ hle, hthree ▸ hge⟩, hnew, (hfollows.2.2 (bar 3 10) hnew hfull).2⟩

end Indicator

end Crossover

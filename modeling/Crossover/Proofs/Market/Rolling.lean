import Mathlib.Tactic.Ring
import Crossover.Proofs.Market.FromScratch
import Crossover.Proofs.Market.Smoothing

/-!
# The rolling simple average

A simple indicator computes the mean of its window anew while the series is not longer than the
window. From then on it rolls the mean forward by the close that enters and the close that leaves,
and never looks at the closes between. Main statement: over exact numbers its value is the plain
mean of the last closes at every bar, rolled or not, and the close that leaves is always there.
-/

namespace Crossover

variable {α : Type} [Scalar α]

namespace Simple

/-- The mean of the last closes, of as many as the window takes. -/
def value (window : Nat) (closes : List α) : α :=
  mean (closes.drop (closes.length - window))

variable {window : Nat}

theorem value_of_length_le {closes : List α} (h : closes.length ≤ window) :
    value window closes = mean closes := by
  rw [value, Nat.sub_eq_zero_of_le h, List.drop_zero]

variable {closes : List Rat}

theorem value_rat (window : Nat) (closes : List Rat) :
    value window closes =
      (closes.drop (closes.length - min window closes.length)).sum /
        (min window closes.length : Nat) := by
  have hdrop : closes.length - min window closes.length = closes.length - window := by omega
  have hlength : (closes.drop (closes.length - window)).length = min window closes.length := by
    rw [List.length_drop]
    omega
  rw [value, hdrop, ← hlength]
  by_cases hnone : closes.drop (closes.length - window) = []
  · rw [hnone]
    simp [mean]
  · exact mean_rat hnone

/-- Once the window is full, one close enters the mean and the oldest one leaves it. -/
theorem value_concat {close leaving : Rat} (hfull : window ≤ closes.length)
    (hleaving : closes[closes.length - window]? = some leaving) :
    value window (closes ++ [close]) = value window closes + (close - leaving) / window := by
  obtain ⟨hlt, hget⟩ := List.getElem?_eq_some_iff.mp hleaving
  have hold : closes.drop (closes.length - window) =
      leaving :: closes.drop (closes.length - window + 1) := by
    rw [List.drop_eq_getElem_cons hlt, hget]
  have hstart : (closes ++ [close]).length - window = closes.length - window + 1 := by
    rw [List.length_append, List.length_singleton]
    omega
  have hnew : (closes ++ [close]).drop ((closes ++ [close]).length - window) =
      closes.drop (closes.length - window + 1) ++ [close] := by
    rw [hstart, List.drop_append_of_le_length (by omega)]
  have hwindow : (closes.drop (closes.length - window + 1)).length + 1 = window := by
    rw [List.length_drop]
    omega
  rw [value, value, hnew, hold, mean_rat (List.cons_ne_nil _ _), mean_rat (by simp),
    List.length_append, List.length_singleton, List.length_cons, hwindow, List.sum_append,
    List.sum_singleton, List.sum_cons]
  ring

end Simple

namespace Indicator

def simpleOver (window : Nat) (bars : List (Candle α)) : Indicator α where
  weighting := .simple
  average :=
    { window := window
      bars := bars.length
      previous := Simple.value window (closesOf bars.dropLast)
      value := Simple.value window (closesOf bars) }
  seeded := !bars.isEmpty

theorem start_simple (window : Nat) :
    (start .simple window : Indicator α) = simpleOver window [] := by
  simp [start, Average.start, simpleOver, Simple.value, closesOf, mean]

section Rolling

/-- The value is rolled forward, for which the close that leaves the window is looked up. -/
structure Rolls (i : Indicator α) (s : Series α) : Prop where
  simple : i.weighting = .simple
  size_ne_zero : s.size ≠ 0
  window_ne_zero : i.window ≠ 0
  seeded : ¬ (i.seeded = false ∧ s.size = 1)
  window_le : i.window ≤ s.size - 1

variable {i : Indicator α} {s : Series α}

/-- Whenever a value is rolled forward, the bar whose close leaves the window is in the series. -/
theorem Rolls.exists_leaving (h : i.Rolls s) :
    i.window + 1 ≤ s.size ∧ ∃ c, s.candles[s.size - (i.window + 1)]? = some c ∧
      (i.advance s).value =
        i.value + (s.last.closePrice - c.closePrice) / Scalar.ofCount i.window := by
  obtain ⟨hsimple, hsize, hwindow, hseeded, hle⟩ := h
  have hlong : i.window + 1 ≤ s.size := by omega
  have hindex : s.size - (i.window + 1) < s.size := by omega
  refine ⟨hlong, s.candles[s.size - (i.window + 1)], Array.getElem?_eq_getElem hindex, ?_⟩
  have hfirst : ¬ (!i.seeded && decide (s.size = 1)) = true := by
    simpa using hseeded
  have hnext : simpleNext i.window i.seeded i.value s =
      i.value + (s.last.closePrice - leavingClose i.window s) / Scalar.ofCount i.window := by
    rw [simpleNext, if_neg hfirst, if_neg (by omega)]
  have hguard : ¬ (s.size = 0 ∨ i.window = 0) := by omega
  have hleaving : leavingClose i.window s = (s.candles[s.size - (i.window + 1)]).closePrice := by
    rw [leavingClose, Array.getElem?_eq_getElem hindex, Option.getD_some]
  simp only [advance, hsimple, if_neg hguard]
  rw [← hleaving]
  exact hnext

end Rolling

variable {window : Nat} {bars : List (Candle Rat)} {bar : Candle Rat}

theorem leavingClose_concat (hw : 1 ≤ window) (hfull : window ≤ bars.length) :
    (closesOf bars)[(closesOf bars).length - window]? =
      some (leavingClose window (.ofList (bars ++ [bar]))) := by
  have hlt : bars.length - window < bars.length := by omega
  have hindex : (Series.ofList (bars ++ [bar])).size - (window + 1) = bars.length - window := by
    rw [Series.size_ofList, List.length_append, List.length_singleton]
    omega
  have hbar : (Series.ofList (bars ++ [bar])).candles[bars.length - window]? =
      some bars[bars.length - window] := by
    have hlist : (bars ++ [bar])[bars.length - window]? = some bars[bars.length - window] := by
      rw [List.getElem?_append_left hlt, List.getElem?_eq_getElem hlt]
    simpa [Series.ofList] using hlist
  rw [leavingClose, hindex, hbar, length_closesOf, closesOf, List.getElem?_map,
    List.getElem?_eq_getElem hlt]
  rfl

theorem simpleNext_concat (hw : 1 ≤ window) (bars : List (Candle Rat)) (bar : Candle Rat) :
    simpleNext window (!bars.isEmpty) (Simple.value window (closesOf bars))
        (.ofList (bars ++ [bar])) =
      Simple.value window (closesOf (bars ++ [bar])) := by
  cases bars with
  | nil =>
      -- the first close is taken as it is, and is the mean of itself
      have hfirst : Simple.value window (closesOf ([] ++ [bar])) = bar.closePrice := by
        rw [Simple.value_of_length_le (by simpa using hw), mean_rat (by simp [closesOf])]
        simp [closesOf]
      rw [hfirst, simpleNext, if_pos (by simp), Series.last_ofList_concat]
  | cons first rest =>
      have hsize : (Series.ofList (first :: rest ++ [bar])).size - 1 = (first :: rest).length := by
        simp
      rw [simpleNext, if_neg (by simp), hsize]
      by_cases hshort : (first :: rest).length < window
      · rw [if_pos hshort, Series.meanClose_ofList, Simple.value, length_closesOf]
      · have hfull : window ≤ (first :: rest).length := not_lt.mp hshort
        rw [if_neg hshort, Series.last_ofList_concat, closesOf_concat,
          Simple.value_concat (by simpa using hfull) (leavingClose_concat hw hfull)]
        rfl

/-- Advanced over one more bar, the indicator is the one over all the bars. -/
theorem advance_simpleOver (hw : 1 ≤ window) (bars : List (Candle Rat)) (bar : Candle Rat) :
    (simpleOver window bars).advance (.ofList (bars ++ [bar])) =
      simpleOver window (bars ++ [bar]) := by
  have hguard : ¬ ((Series.ofList (bars ++ [bar])).size = 0 ∨ window = 0) := by
    rw [Series.size_ofList, List.length_append, List.length_singleton]
    omega
  have hseeded : (!(bars ++ [bar]).isEmpty) = true := by simp
  have hnext := simpleNext_concat hw bars bar
  rw [simpleOver, advance_simple _ _ hguard]
  simp only [simpleOver, Average.advance, hnext, hseeded, List.dropLast_concat,
    List.length_append, List.length_singleton]

/-- Advanced once after each bar added to an empty series, the indicator is the one over the bars
of the series. -/
theorem along_simple (hw : 1 ≤ window) (bars : List (Candle Rat)) :
    along (.start .simple window) bars =
      (.ofList (keptBars bars), simpleOver window (keptBars bars)) := by
  rw [start_simple]
  exact along_eq (advance_simpleOver hw) bars

/-- The switch to rolling comes with the bar after the one that fills the window. -/
theorem rolls_simpleOver_iff (hw : 1 ≤ window) :
    (simpleOver window bars).Rolls (.ofList (bars ++ [bar])) ↔
      window + 1 ≤ (Series.ofList (bars ++ [bar])).size := by
  have hsize : (Series.ofList (bars ++ [bar])).size = bars.length + 1 := by simp
  have hwindow : (simpleOver window bars).window = window := rfl
  constructor
  · intro h
    exact hwindow ▸ h.exists_leaving.1
  · intro hlong
    refine ⟨rfl, by omega, by omega, ?_, by omega⟩
    rintro ⟨-, hone⟩
    omega

/-- A simple indicator that is advanced once after each bar added to a series holds the plain mean
of the last closes, of as many as the window takes, and before it that of the closes before the
last one. Exactly from the bar after a full window on it rolls the mean forward, and then the bar
whose close leaves the window is in the series. -/
theorem rolls_on_plain_mean (window : Nat) (hw : 1 ≤ window) (bars : List (Candle Rat))
    (bar : Candle Rat) (hnew : ¬ bar.Repeats (keptBars bars)) :
    let plain (closes : List Rat) : Rat :=
      (closes.drop (closes.length - min window closes.length)).sum /
        (min window closes.length : Nat)
    let before := along (.start .simple window) bars
    let now := along (.start .simple window) (bars ++ [bar])
    now.1.toList = keptBars bars ++ [bar] ∧
      now.2.value = plain now.1.closes ∧
      now.2.value = now.1.meanClose window ∧
      now.2.previous = plain before.1.closes ∧
      (now.1.size = 1 → now.2.previous = 0) ∧
      (before.2.Rolls now.1 ↔ window + 1 ≤ now.1.size) ∧
      (before.2.Rolls now.1 → ∃ c, now.1.candles[now.1.size - (window + 1)]? = some c ∧
        now.2.value = before.2.value + (bar.closePrice - c.closePrice) / window) := by
  intro plain before now
  have hbefore : before = (.ofList (keptBars bars), simpleOver window (keptBars bars)) :=
    along_simple hw bars
  have hnow : now =
      (.ofList (keptBars bars ++ [bar]), simpleOver window (keptBars bars ++ [bar])) := by
    rw [← keptBars_concat_of_new hnew]
    exact along_simple hw (bars ++ [bar])
  have hplain (kept : List (Candle Rat)) :
      Simple.value window (closesOf kept) = plain (Series.ofList kept).closes :=
    Simple.value_rat window (closesOf kept)
  have hprevious : (simpleOver window (keptBars bars ++ [bar])).previous =
      Simple.value window (closesOf (keptBars bars)) := by
    show Simple.value window (closesOf (keptBars bars ++ [bar]).dropLast) = _
    rw [List.dropLast_concat]
  rw [hbefore, hnow]
  refine ⟨rfl, hplain _, ?_, ?_, ?_, rolls_simpleOver_iff hw, ?_⟩
  · rw [Series.meanClose_ofList, ← length_closesOf]
    rfl
  · rw [hprevious]
    exact hplain _
  · intro hone
    have hnone : keptBars bars = [] := by simpa using hone
    rw [hprevious, hnone]
    simp [Simple.value, closesOf, mean]
  · intro hrolls
    obtain ⟨-, hleaving⟩ := hrolls.exists_leaving
    rw [advance_simpleOver hw, Series.last_ofList_concat] at hleaving
    exact hleaving

/-- With a window of five, the seventh close is the second that is rolled in: three is dropped. -/
theorem seventh_close_rolled_in :
    let bar (hour : Int) (closePrice : Rat) : Candle Rat :=
      { Candle.blank with openTime := .ofMillis (hour * 3600000), closePrice }
    let bars := [bar 0 1, bar 1 3, bar 2 5, bar 3 3, bar 4 8, bar 5 1]
    ¬ (bar 6 13).Repeats (keptBars bars) ∧
      (along (.start .simple 5) (bars ++ [bar 6 13])).2.value = 6 := by
  intro bar bars
  have hnew : ¬ (bar 6 13).Repeats (keptBars bars) := by decide +kernel
  have hplain := (rolls_on_plain_mean 5 (by omega) bars (bar 6 13) hnew).2.1
  refine ⟨hnew, hplain.trans ?_⟩
  decide +kernel

end Indicator

end Crossover

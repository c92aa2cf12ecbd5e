import Crossover.Market.Average

/-!
# The exponential average from scratch

The exponential average of a list of closes, computed from the whole list: zero below a full
window, the mean of the first window, and from there a step of `2 / (window + 1)` towards each
further close. An exponential indicator that is advanced once for each bar of a series holds this
average of the closes, and that of the closes before the last one.
-/

namespace Crossover

variable {α : Type} [Scalar α]

def closesOf (bars : List (Candle α)) : List α :=
  bars.map (·.closePrice)

omit [Scalar α] in
@[simp] theorem length_closesOf (bars : List (Candle α)) :
    (closesOf bars).length = bars.length :=
  List.length_map _

omit [Scalar α] in
theorem closesOf_concat (bars : List (Candle α)) (bar : Candle α) :
    closesOf (bars ++ [bar]) = closesOf bars ++ [bar.closePrice] := by
  simp [closesOf]

def mean (xs : List α) : α :=
  if xs.isEmpty then Scalar.zero else Scalar.sum xs / Scalar.ofCount xs.length

namespace Exponential

/-- The part of the way to a new close that the average goes. -/
def pull (window : Nat) : α :=
  Scalar.ofCount 2 / (Scalar.ofCount window + Scalar.ofCount 1)

def toward (window : Nat) (average close : α) : α :=
  (close - average) * pull window + average

def value (window : Nat) (closes : List α) : α :=
  if closes.length < window then Scalar.zero
  else (closes.drop window).foldl (toward window) (mean (closes.take window))

theorem value_nil (window : Nat) : value window ([] : List α) = Scalar.zero := by
  unfold value
  split <;> simp [mean]

variable {window : Nat} {closes : List α}

theorem value_of_lt (h : closes.length < window) : value window closes = Scalar.zero := by
  rw [value, if_pos h]

theorem value_of_length (h : closes.length = window) : value window closes = mean closes := by
  subst h
  simp [value]

theorem value_concat (h : window ≤ closes.length) (close : α) :
    value window (closes ++ [close]) = toward window (value window closes) close := by
  have hlong : ¬ (closes ++ [close]).length < window := by
    simp only [List.length_append, List.length_singleton]
    omega
  rw [value, if_neg hlong, value, if_neg (by omega), List.drop_append_of_le_length h,
    List.take_append_of_le_length h, List.foldl_append]
  rfl

end Exponential

namespace Series

def ofList (bars : List (Candle α)) : Series α := ⟨bars.toArray⟩

variable (bars : List (Candle α)) (bar : Candle α)

omit [Scalar α] in
@[simp] theorem toList_ofList : (ofList bars).toList = bars := rfl

omit [Scalar α] in
@[simp] theorem size_ofList : (ofList bars).size = bars.length := rfl

omit [Scalar α] in
theorem push_ofList : (ofList bars).push bar = ofList (bars ++ [bar]) := by
  simp [ofList, push]

omit [Scalar α] in
theorem last?_ofList : (ofList bars).last? = bars.getLast? :=
  last?_eq_getLast? (ofList bars)

theorem last_ofList_concat : (ofList (bars ++ [bar])).last = bar := by
  simp [last, last?_ofList]

omit [Scalar α] in
theorem isNew_ofList :
    (ofList bars).isNew bar = bars.getLast?.all fun last => last.openTime != bar.openTime := by
  unfold isNew
  rw [last?_ofList]
  cases bars.getLast? <;> rfl

/-- The mean close over a window is that of the last closes, of as many as the window takes. -/
theorem meanClose_ofList (window : Nat) :
    (ofList bars).meanClose window = mean ((closesOf bars).drop (bars.length - window)) := by
  have hcloses : (ofList bars).lastCloses (min window bars.length) =
      (closesOf bars).drop (bars.length - window) := by
    rw [lastCloses_eq_drop]
    simp only [closes, toList_ofList, List.length_map]
    congr 1
    omega
  have hlength : ((closesOf bars).drop (bars.length - window)).length = min window bars.length := by
    rw [List.length_drop, length_closesOf]
    omega
  simp only [meanClose, mean, size_ofList, hcloses, List.isEmpty_iff_length_eq_zero, hlength]

end Series

namespace Indicator

open Exponential

def exponentialOver (window : Nat) (bars : List (Candle α)) : Indicator α where
  weighting := .exponential
  average :=
    { window := window
      bars := bars.length
      previous := Exponential.value window (closesOf bars.dropLast)
      value := Exponential.value window (closesOf bars) }
  seeded := false

theorem start_exponential (window : Nat) :
    (start .exponential window : Indicator α) = exponentialOver window [] := by
  simp [start, Average.start, exponentialOver, closesOf, value_nil]

theorem exponentialNext_concat (window : Nat) (bars : List (Candle α)) (bar : Candle α) :
    exponentialNext window (Exponential.value window (closesOf bars)) (.ofList (bars ++ [bar])) =
      Exponential.value window (closesOf (bars ++ [bar])) := by
  have hlength : (closesOf (bars ++ [bar])).length = bars.length + 1 := by simp
  unfold exponentialNext
  rw [Series.size_ofList, List.length_append, List.length_singleton]
  -- below the window, filling it, and beyond it
  rcases Nat.lt_trichotomy (bars.length + 1) window with hlt | heq | hgt
  · rw [if_pos hlt, value_of_lt (hlength ▸ hlt)]
  · rw [if_neg (by omega), if_pos heq, value_of_length (hlength.trans heq), ← heq,
      Series.meanClose_ofList, List.length_append, List.length_singleton, Nat.sub_self,
      List.drop_zero]
  · rw [if_neg (by omega), if_neg (by omega), Series.last_ofList_concat]
    have hfull : window ≤ (closesOf bars).length := by
      rw [length_closesOf]
      omega
    rw [closesOf_concat, value_concat hfull]
    rfl

/-- Advanced over one more bar, the indicator is the one over all the bars. -/
theorem advance_exponentialOver (window : Nat) (bars : List (Candle α)) (bar : Candle α) :
    (exponentialOver window bars).advance (.ofList (bars ++ [bar])) =
      exponentialOver window (bars ++ [bar]) := by
  have hnext := exponentialNext_concat window bars bar
  simp only [advance, exponentialOver, Indicator.window, Indicator.value, Average.advance, hnext,
    List.dropLast_concat, List.length_append, List.length_singleton]

end Indicator

end Crossover

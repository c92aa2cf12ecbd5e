import Mathlib.Algebra.BigOperators.Ring.List
import Mathlib.Algebra.Order.Field.Rat
import Mathlib.Tactic.Ring
import Crossover.Proofs.Market.FromScratch
import Crossover.Proofs.Number.Exact

/-!
# The unit of prices

Counted in another unit, all prices of a market are multiplied by one positive factor. Every
operation on series, averages and the crossover rule goes along with that: averages are multiplied
by the factor, comparisons between prices come out the same, and zero stays zero. So the rule
gives the same signals in every unit, whichever averages it follows.
-/

namespace Crossover

section Comparisons

variable {k : Rat}

theorem less_mul (hk : 0 < k) (a b : Rat) : Scalar.less (k * a) (k * b) = Scalar.less a b := by
  simp only [Scalar.less_rat, mul_lt_mul_iff_right₀ hk]

theorem same_zero_mul (hk : 0 < k) (a : Rat) :
    Scalar.same (k * a) Scalar.zero = Scalar.same a Scalar.zero := by
  simp only [Scalar.same_rat, Scalar.zero_rat, mul_eq_zero, hk.ne', false_or]

end Comparisons

variable {k : Rat}

namespace Candle

def rescale (k : Rat) (c : Candle Rat) : Candle Rat :=
  { c with
    openPrice := k * c.openPrice
    closePrice := k * c.closePrice
    low := k * c.low
    high := k * c.high }

variable (c : Candle Rat)

@[simp] theorem rescale_openPrice : (c.rescale k).openPrice = k * c.openPrice := rfl

@[simp] theorem rescale_closePrice : (c.rescale k).closePrice = k * c.closePrice := rfl

@[simp] theorem rescale_blank : (blank : Candle Rat).rescale k = blank := by
  simp [rescale, blank]

theorem rescale_isGreen (hk : 0 < k) : (c.rescale k).isGreen = c.isGreen :=
  less_mul hk c.openPrice c.closePrice

theorem rescale_isRed (hk : 0 < k) : (c.rescale k).isRed = c.isRed :=
  less_mul hk c.closePrice c.openPrice

end Candle

namespace Series

def rescale (k : Rat) (s : Series Rat) : Series Rat :=
  ⟨s.candles.map (Candle.rescale k)⟩

variable (s : Series Rat) (c : Candle Rat)

@[simp] theorem rescale_empty : (empty : Series Rat).rescale k = empty := by
  simp [rescale, empty]

@[simp] theorem rescale_size : (s.rescale k).size = s.size := by
  simp [rescale, size]

theorem rescale_last? : (s.rescale k).last? = s.last?.map (Candle.rescale k) := by
  simp [rescale, last?, Array.back?]

@[simp] theorem rescale_last : (s.rescale k).last = s.last.rescale k := by
  unfold last
  rw [rescale_last?]
  cases s.last? with
  | none => simp
  | some c => rfl

theorem rescale_isNew : (s.rescale k).isNew (c.rescale k) = s.isNew c := by
  unfold isNew
  rw [rescale_last?]
  cases s.last? <;> rfl

theorem rescale_add : (s.rescale k).add (c.rescale k) = (s.add c).rescale k := by
  unfold add
  rw [rescale_isNew]
  by_cases hnew : s.isNew c = true
  · rw [if_pos hnew, if_pos hnew]
    simp [push, rescale]
  · rw [if_neg hnew, if_neg hnew]

theorem rescale_lastCloses (n : Nat) :
    (s.rescale k).lastCloses n = (s.lastCloses n).map (k * ·) := by
  have hcloses : (s.rescale k).closes = s.closes.map (k * ·) := by
    simp [closes, toList, rescale, Function.comp_def]
  rw [lastCloses_eq_drop, lastCloses_eq_drop, hcloses, List.length_map, List.map_drop]

theorem rescale_meanClose (window : Nat) :
    (s.rescale k).meanClose window = k * s.meanClose window := by
  simp only [meanClose, rescale_size, rescale_lastCloses, Scalar.sum_rat, Scalar.zero_rat]
  by_cases hnone : min window s.size = 0
  · rw [if_pos hnone, if_pos hnone, mul_zero]
  · rw [if_neg hnone, if_neg hnone, List.sum_map_mul_left, List.map_id', mul_div_assoc]

end Series

namespace Average

def rescale (k : Rat) (a : Average Rat) : Average Rat :=
  { a with previous := k * a.previous, value := k * a.value }

variable (a : Average Rat) (s : Series Rat)

@[simp] theorem rescale_start (window : Nat) :
    (start window : Average Rat).rescale k = start window := by
  simp [rescale, start]

theorem rescale_advance (value : Rat) :
    (a.rescale k).advance (k * value) = (a.advance value).rescale k := rfl

theorem rescale_isRising (hk : 0 < k) : (a.rescale k).isRising = a.isRising :=
  less_mul hk a.previous a.value

theorem rescale_crossing (hk : 0 < k) :
    (a.rescale k).crossing (s.rescale k) = a.crossing s := by
  simp only [crossing, rescale, Series.rescale_last, Candle.rescale_isGreen _ hk,
    Candle.rescale_isRed _ hk, Candle.rescale_openPrice, Candle.rescale_closePrice, less_mul hk]

end Average

namespace Indicator

def rescale (k : Rat) (i : Indicator Rat) : Indicator Rat :=
  { i with average := i.average.rescale k }

variable (i : Indicator Rat) (s : Series Rat)

@[simp] theorem rescale_start (weighting : Weighting) (window : Nat) :
    (start weighting window : Indicator Rat).rescale k = start weighting window := by
  simp [rescale, start]

@[simp] theorem rescale_value : (i.rescale k).value = k * i.value := rfl

theorem rescale_exponentialNext (window : Nat) (value : Rat) :
    exponentialNext window (k * value) (s.rescale k) = k * exponentialNext window value s := by
  unfold exponentialNext
  rw [Series.rescale_size, Series.rescale_meanClose, Series.rescale_last,
    Candle.rescale_closePrice]
  by_cases hshort : s.size < window
  · rw [if_pos hshort, if_pos hshort, Scalar.zero_rat, mul_zero]
  · rw [if_neg hshort, if_neg hshort]
    by_cases hfull : s.size = window
    · rw [if_pos hfull, if_pos hfull]
    · rw [if_neg hfull, if_neg hfull]
      ring

theorem rescale_leavingClose (window : Nat) :
    leavingClose window (s.rescale k) = k * leavingClose window s := by
  unfold leavingClose
  rw [Series.rescale_size, Series.rescale, Array.getElem?_map]
  cases s.candles[s.size - (window + 1)]? with
  | none => simp [Candle.blank]
  | some c => rfl

theorem rescale_simpleNext (window : Nat) (seeded : Bool) (value : Rat) :
    simpleNext window seeded (k * value) (s.rescale k) = k * simpleNext window seeded value s := by
  unfold simpleNext
  rw [Series.rescale_size, Series.rescale_meanClose, Series.rescale_last, rescale_leavingClose,
    Candle.rescale_closePrice]
  by_cases hfirst : (!seeded && decide (s.size = 1)) = true
  · rw [if_pos hfirst, if_pos hfirst]
  · rw [if_neg hfirst, if_neg hfirst]
    by_cases hshort : s.size - 1 < window
    · rw [if_pos hshort, if_pos hshort]
    · rw [if_neg hshort, if_neg hshort]
      ring

theorem rescale_mk (weighting : Weighting) (average : Average Rat) (seeded : Bool) :
    (⟨weighting, average, seeded⟩ : Indicator Rat).rescale k =
      ⟨weighting, average.rescale k, seeded⟩ := rfl

theorem rescale_advance : (i.rescale k).advance (s.rescale k) = (i.advance s).rescale k := by
  rcases i with ⟨weighting, average, seeded⟩
  cases weighting with
  | exponential =>
      rw [rescale_mk, advance_exponential, advance_exponential, rescale_mk,
        ← Average.rescale_advance, ← rescale_exponentialNext]
      rfl
  | simple =>
      have hsize : (s.rescale k).size = s.size := Series.rescale_size s
      by_cases hidle : s.size = 0 ∨ average.window = 0
      · rw [rescale_mk, advance_idle _ _ hidle, advance_idle _ _ (hsize ▸ hidle)]
        rfl
      · rw [rescale_mk, advance_simple _ _ hidle, advance_simple _ _ (hsize ▸ hidle), rescale_mk,
          ← Average.rescale_advance, ← rescale_simpleNext]
        rfl

end Indicator

namespace CrossoverState

def rescale (k : Rat) (r : CrossoverState Rat) : CrossoverState Rat where
  series := r.series.rescale k
  fast := r.fast.rescale k
  slow := r.slow.rescale k
  warming := r.warming

variable (r : CrossoverState Rat) (c : Candle Rat)

@[simp] theorem rescale_start (fast slow : Weighting) (fastWindow slowWindow warming : Nat) :
    (start fast slow fastWindow slowWindow warming : CrossoverState Rat).rescale k =
      start fast slow fastWindow slowWindow warming := by
  simp [rescale, start]

theorem rescale_observe : (r.rescale k).observe (c.rescale k) = (r.observe c).rescale k := by
  simp only [observe, rescale, Series.rescale_add, Indicator.rescale_advance]

theorem rescale_isReady (hk : 0 < k) : (r.rescale k).isReady = r.isReady := by
  simp only [isReady, rescale, Indicator.rescale_value, same_zero_mul hk]
  rfl

theorem rescale_condition (hk : 0 < k) : (r.rescale k).condition = r.condition := by
  simp only [condition, rescale, Indicator.rescale, Average.rescale_isRising _ hk,
    Average.rescale_crossing _ _ hk]

/-- Asked about a bar in another unit, the rule answers the same, and its state is the one it would
be in, in that unit. -/
theorem rescale_advise (hk : 0 < k) :
    (r.rescale k).advise (c.rescale k) = ((r.advise c).1, (r.advise c).2.rescale k) := by
  have hnew : (r.rescale k).series.isNew (c.rescale k) = r.series.isNew c :=
    Series.rescale_isNew r.series c
  unfold advise
  rw [hnew]
  by_cases h : r.series.isNew c = true
  · simp only [if_pos h, rescale_observe, rescale_isReady _ hk, rescale_condition _ hk]
  · simp only [if_neg h]

end CrossoverState

def Rule.signals {α ρ : Type} (rule : Rule α ρ) : ρ → List (Candle α) → List Signal
  | _, [] => []
  | r, bar :: bars => (rule.advise r bar).1 :: rule.signals (rule.advise r bar).2 bars

namespace CrossoverState

variable (r : CrossoverState Rat) (bars : List (Candle Rat))

theorem rescale_after (hk : 0 < k) :
    (crossoverRule Rat).after (r.rescale k) (bars.map (Candle.rescale k)) =
      ((crossoverRule Rat).after r bars).rescale k := by
  induction bars generalizing r with
  | nil => rfl
  | cons bar bars ih =>
      have hstep : ((crossoverRule Rat).advise (r.rescale k) (bar.rescale k)).2 =
          ((crossoverRule Rat).advise r bar).2.rescale k :=
        congrArg Prod.snd (rescale_advise r bar hk)
      rw [List.map_cons, Rule.after, List.foldl_cons, hstep]
      exact ih _

theorem rescale_signals (hk : 0 < k) :
    (crossoverRule Rat).signals (r.rescale k) (bars.map (Candle.rescale k)) =
      (crossoverRule Rat).signals r bars := by
  induction bars generalizing r with
  | nil => rfl
  | cons bar bars ih =>
      have hstep : (crossoverRule Rat).advise (r.rescale k) (bar.rescale k) =
          (((crossoverRule Rat).advise r bar).1, ((crossoverRule Rat).advise r bar).2.rescale k) :=
        rescale_advise r bar hk
      rw [List.map_cons, Rule.signals, Rule.signals, hstep, ih]

/-- Shown bars with all prices multiplied by one positive factor, a fresh rule gives the same
signals, bar by bar, whichever averages it follows, and after the bars every average, and every
average before the last bar, is the original one multiplied by the factor. -/
theorem signals_independent_of_unit (fast slow : Weighting) (fastWindow slowWindow warming : Nat)
    (k : Rat) (hk : 0 < k) (bars : List (Candle Rat)) :
    let fresh : CrossoverState Rat := start fast slow fastWindow slowWindow warming
    let r := (crossoverRule Rat).after fresh bars
    let r' := (crossoverRule Rat).after fresh (bars.map (Candle.rescale k))
    (crossoverRule Rat).signals fresh (bars.map (Candle.rescale k)) =
        (crossoverRule Rat).signals fresh bars ∧
      r'.fast.value = k * r.fast.value ∧ r'.fast.previous = k * r.fast.previous ∧
      r'.slow.value = k * r.slow.value ∧ r'.slow.previous = k * r.slow.previous := by
  intro fresh r r'
  have hfresh : fresh.rescale k = fresh := rescale_start fast slow fastWindow slowWindow warming
  have hsignals := rescale_signals fresh bars hk
  have hafter : r' = r.rescale k := by
    have h := rescale_after fresh bars hk
    rw [hfresh] at h
    exact h
  rw [hfresh] at hsignals
  rw [hafter]
  exact ⟨hsignals, rfl, rfl, rfl, rfl⟩

/-- A rise that is bought when prices are counted in coins is bought when they are in cents. -/
theorem bought_in_cents :
    let bar (hour : Int) (openPrice closePrice : Rat) : Candle Rat :=
      { Candle.blank with openTime := .ofMillis (hour * 3600000), openPrice, closePrice }
    let bars := [bar 0 10 10, bar 1 10 11, bar 2 11 12]
    (0 : Rat) < 100 ∧
      (crossoverRule Rat).signals (start .simple .exponential 2 3 3)
        (bars.map (Candle.rescale 100)) = [.hold, .hold, .advice .buy .openPosition] := by
  intro bar bars
  have hk : (0 : Rat) < 100 := by decide +kernel
  have hsignals := (signals_independent_of_unit .simple .exponential 2 3 3 100 hk bars).1
  refine ⟨hk, hsignals.trans ?_⟩
  decide +kernel

end CrossoverState

end Crossover

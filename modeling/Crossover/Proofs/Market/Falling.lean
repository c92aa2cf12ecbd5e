import Crossover.Proofs.Market.Readiness

/-!
# The crossover rule in a falling market

While no bar closes above the one before it, the slow average does not rise, and no bar closes
above the fast average. But the average before the first one is zero, and a first average above
zero counts as a rise. So in a falling market the rule never advises to open a purchase, and it
advises to close one at most once: at the bar that first fills the slow window.
-/

namespace Crossover

/-- No bar closes above the one before it. -/
def Falling (bars : List (Candle Rat)) : Prop :=
  bars.IsChain fun before bar => bar.closePrice ≤ before.closePrice

instance (bars : List (Candle Rat)) : Decidable (Falling bars) :=
  inferInstanceAs (Decidable (bars.IsChain fun before bar => bar.closePrice ≤ before.closePrice))

theorem Falling.closes {bars : List (Candle Rat)} (h : Falling bars) :
    (closesOf bars).Pairwise (· ≥ ·) :=
  List.isChain_iff_pairwise.mp ((List.isChain_map _).mpr h)

/-- If the last close of a falling market is positive, all are. -/
theorem Falling.positive {bars : List (Candle Rat)} {bar : Candle Rat}
    (h : Falling (bars ++ [bar])) (hlast : 0 < bar.closePrice) :
    ∀ c ∈ bars ++ [bar], 0 < c.closePrice := by
  intro c hc
  have hcloses := h.closes
  rw [closesOf_concat] at hcloses
  have hmem : c.closePrice ∈ closesOf bars ++ [bar.closePrice] := by
    rw [← closesOf_concat]
    exact List.mem_map_of_mem hc
  exact hlast.trans_le (Exponential.last_le_of_mem hcloses _ hmem)

namespace Candle

variable {bar : Candle Rat} {level : Rat}

theorem crosses_up_iff :
    bar.crosses level = .up ↔ bar.openPrice < level ∧ level < bar.closePrice := by
  unfold crosses
  simp only [Scalar.less_rat, Bool.and_eq_true, decide_eq_true_eq]
  split
  · next h => simp [h.1.2, h.2]
  · next h =>
      have hnot : ¬ (bar.openPrice < level ∧ level < bar.closePrice) :=
        fun hl => h ⟨⟨hl.1.trans hl.2, hl.1⟩, hl.2⟩
      split <;> simp [hnot]

theorem crosses_down_iff :
    bar.crosses level = .down ↔ bar.closePrice < level ∧ level < bar.openPrice := by
  unfold crosses
  simp only [Scalar.less_rat, Bool.and_eq_true, decide_eq_true_eq]
  split
  · next h =>
      have hnot : ¬ (bar.closePrice < level ∧ level < bar.openPrice) :=
        fun hl => lt_asymm (h.1.2.trans h.2) (hl.1.trans hl.2)
      simp [hnot]
  · split
    · next h => simp [h.1.2, h.2]
    · next h =>
        have hnot : ¬ (bar.closePrice < level ∧ level < bar.openPrice) :=
          fun hl => h ⟨⟨hl.1.trans hl.2, hl.2⟩, hl.1⟩
        simp [hnot]

end Candle

namespace CrossoverState

variable {fastWindow slowWindow warming : Nat} {kept : List (Candle Rat)} {bar : Candle Rat}

/-- A purchase is advised on exactly two rows of the table. -/
theorem signal_buy_iff {α : Type} [Scalar α] {kept : List (Candle α)} {action : Action} :
    signalFromScratch fastWindow slowWindow warming kept = .advice .buy action ↔
      heldBack fastWindow slowWindow warming kept = false ∧ hasRisen slowWindow kept = true ∧
        (lastCross fastWindow kept = .up ∧ action = .openPosition ∨
          lastCross fastWindow kept = .down ∧ action = .closePosition) := by
  unfold signalFromScratch
  cases heldBack fastWindow slowWindow warming kept with
  | true => simp
  | false =>
      cases hasRisen slowWindow kept <;> cases lastCross fastWindow kept <;> cases action <;> simp

section Falling

variable (hfalling : Falling (kept ++ [bar])) (hpositive : 0 < bar.closePrice)

include hfalling

theorem close_le_value {window : Nat} (hw : 1 ≤ window) (hfull : window ≤ kept.length + 1) :
    bar.closePrice ≤ Exponential.value window (closesOf (kept ++ [bar])) := by
  have hcloses := hfalling.closes
  rw [closesOf_concat] at hcloses ⊢
  exact Exponential.last_le_value hw hcloses (by simpa using hfull)

theorem lastCross_ne_up (hw : 1 ≤ fastWindow) (hfull : fastWindow ≤ kept.length + 1) :
    lastCross fastWindow (kept ++ [bar]) ≠ .up := by
  intro hup
  rw [lastCross, List.getLast?_concat, Option.map_some, Option.getD_some,
    Candle.crosses_up_iff] at hup
  exact absurd hup.2 (not_lt.mpr (close_le_value hfalling hw hfull))

theorem hasRisen_eq_false (hw : 1 ≤ slowWindow) (hfull : slowWindow ≤ kept.length) :
    hasRisen slowWindow (kept ++ [bar]) = false := by
  have hcloses := hfalling.closes
  rw [closesOf_concat] at hcloses
  have hle := Exponential.value_concat_le hw hcloses (by simpa using hfull)
  rw [hasRisen, List.dropLast_concat, closesOf_concat, Scalar.less_rat]
  exact decide_eq_false (not_lt.mpr hle)

include hpositive

/-- The slow average counts as risen only when it is the first one. -/
theorem hasRisen_iff (hslow : 1 ≤ slowWindow) (hfull : slowWindow ≤ kept.length + 1) :
    hasRisen slowWindow (kept ++ [bar]) = true ↔ kept.length + 1 = slowWindow := by
  constructor
  · intro hrisen
    by_contra hne
    rw [hasRisen_eq_false hfalling hslow (by omega)] at hrisen
    cases hrisen
  · intro heq
    -- one bar earlier the window was not full, and zero lies below any average of positive closes
    have hbefore : Exponential.value slowWindow (closesOf kept) = 0 :=
      Exponential.value_of_lt (by simp; omega)
    have hle := close_le_value hfalling hslow hfull
    rw [hasRisen, List.dropLast_concat, hbefore, Scalar.less_rat]
    exact decide_eq_true (hpositive.trans_le hle)

theorem signal_buy_iff_of_falling (hfast : 1 ≤ fastWindow) (hslow : fastWindow < slowWindow)
    (action : Action) :
    signalFromScratch fastWindow slowWindow warming (kept ++ [bar]) = .advice .buy action ↔
      action = .closePosition ∧ kept.length + 1 = slowWindow ∧ warming ≤ slowWindow ∧
        bar.closePrice < Exponential.value fastWindow (closesOf (kept ++ [bar])) ∧
        Exponential.value fastWindow (closesOf (kept ++ [bar])) < bar.openPrice := by
  have hdown : lastCross fastWindow (kept ++ [bar]) = .down ↔
      bar.closePrice < Exponential.value fastWindow (closesOf (kept ++ [bar])) ∧
        Exponential.value fastWindow (closesOf (kept ++ [bar])) < bar.openPrice := by
    rw [lastCross, List.getLast?_concat, Option.map_some, Option.getD_some,
      Candle.crosses_down_iff]
  have hbars : max (max fastWindow slowWindow) warming ≤ (kept ++ [bar]).length ↔
      slowWindow ≤ kept.length + 1 ∧ warming ≤ kept.length + 1 := by
    rw [List.length_append, List.length_singleton]
    omega
  rw [signal_buy_iff,
    heldBack_eq_false_iff hfast (by omega) (hfalling.positive hpositive), hbars, ← hdown]
  constructor
  · rintro ⟨⟨hfull, hwarm⟩, hrisen, hcross⟩
    have hfirst := (hasRisen_iff hfalling hpositive (by omega) hfull).mp hrisen
    rcases hcross with ⟨hup, -⟩ | ⟨hcross, haction⟩
    · exact absurd hup (lastCross_ne_up hfalling hfast (by omega))
    · exact ⟨haction, hfirst, by omega, hcross⟩
  · rintro ⟨haction, hfirst, hwarm, hcross⟩
    have hrisen := (hasRisen_iff hfalling hpositive (by omega) hfirst.ge).mpr hfirst
    exact ⟨⟨hfirst.ge, by omega⟩, hrisen, .inr ⟨hcross, haction⟩⟩

end Falling

/-- In a falling market of positive prices the crossover rule never advises to open a purchase.
It advises to close one exactly at the bar that first fills the slow window, if the warming period
is over by then and the bar falls through the fast average. -/
theorem bought_in_falling_market_iff (fastWindow slowWindow warming : Nat)
    (hfast : 1 ≤ fastWindow) (hslow : fastWindow < slowWindow)
    (bars : List (Candle Rat)) (bar : Candle Rat)
    (hfalling : Falling (keptBars (bars ++ [bar])))
    (hpositive : ∀ c ∈ keptBars (bars ++ [bar]), 0 < c.closePrice) (action : Action) :
    ((crossoverRule Rat).advise
        ((crossoverRule Rat).after (.exponential fastWindow slowWindow warming) bars) bar).1 =
        .advice .buy action ↔
      action = .closePosition ∧ ¬ bar.Repeats (keptBars bars) ∧
        (keptBars bars).length + 1 = slowWindow ∧ warming ≤ slowWindow ∧
        bar.closePrice < Exponential.value fastWindow (closesOf (keptBars (bars ++ [bar]))) ∧
        Exponential.value fastWindow (closesOf (keptBars (bars ++ [bar]))) < bar.openPrice := by
  have hadvise (r : CrossoverState Rat) : (crossoverRule Rat).advise r bar = r.advise bar := rfl
  rw [after_eq_fromScratch, hadvise]
  by_cases h : bar.Repeats (keptBars bars)
  · simp [advise_repeated h, h]
  · rw [keptBars_concat_of_new h] at hfalling hpositive ⊢
    rw [advise_kept h, signal_buy_iff_of_falling hfalling (hpositive bar (by simp)) hfast hslow]
    simp [h]

/-- One bar after the slow window was filled, a fall through the fast average is no purchase. -/
theorem fall_after_first_average_not_bought :
    let bar (hour : Int) (openPrice closePrice : Rat) : Candle Rat :=
      { Candle.blank with openTime := .ofMillis (hour * 3600000), openPrice, closePrice }
    let bars := [bar 0 12 12, bar 1 12 10, bar 2 10 8, bar 3 11 6]
    (Falling (keptBars (bars ++ [bar 4 20 4])) ∧
        ∀ c ∈ keptBars (bars ++ [bar 4 20 4]), 0 < c.closePrice) ∧
      ∀ action, ((crossoverRule Rat).advise
        ((crossoverRule Rat).after (.exponential 3 4 4) bars) (bar 4 20 4)).1 ≠
          .advice .buy action := by
  intro bar bars
  have hfalling : Falling (keptBars (bars ++ [bar 4 20 4])) := by decide +kernel
  have hpositive : ∀ c ∈ keptBars (bars ++ [bar 4 20 4]), 0 < c.closePrice := by decide +kernel
  have hlength : (keptBars bars).length + 1 = 5 := by decide +kernel
  refine ⟨⟨hfalling, hpositive⟩, fun action hbuy => ?_⟩
  have hiff := bought_in_falling_market_iff 3 4 4 (by omega) (by omega) bars (bar 4 20 4) hfalling
    hpositive action
  have hfirst := (hiff.mp hbuy).2.2.1
  omega

/-- The bar that first fills the slow window is advised to close a purchase, though every close
lies below the one before it. -/
theorem first_average_reported_rising :
    let bar (hour : Int) (openPrice closePrice : Rat) : Candle Rat :=
      { Candle.blank with openTime := .ofMillis (hour * 3600000), openPrice, closePrice }
    let bars := [bar 0 12 12, bar 1 12 10, bar 2 10 8]
    Falling (keptBars (bars ++ [bar 3 11 6])) ∧
      (∀ c ∈ keptBars (bars ++ [bar 3 11 6]), 0 < c.closePrice) ∧
      ((crossoverRule Rat).advise
        ((crossoverRule Rat).after (.exponential 3 4 4) bars) (bar 3 11 6)).1 =
          .advice .buy .closePosition := by
  decide +kernel

end CrossoverState

end Crossover

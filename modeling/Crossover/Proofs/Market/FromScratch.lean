import Mathlib.Data.List.Destutter
import Crossover.Market.Rule
import Crossover.Proofs.Market.Exponential

/-!
# The crossover rule from scratch

What the crossover rule holds and answers after a list of bars, computed from the whole list: the
bars that are kept, the two exponential averages of their closes, and the signal for the last one.
The rule itself never looks back further than one bar. Main statement: it is always in the state
computed from scratch, answers the signal computed from scratch to a bar that is kept, and takes
no notice of one that is not.
-/

namespace Crossover

section Kept

variable {γ : Type} {R : γ → γ → Prop} [DecidableRel R]

/-- One more element is kept if it is related to the last one kept. -/
theorem destutter'_concat (first : γ) (xs : List γ) (x : γ) :
    ∃ last, (xs.destutter' R first).getLast? = some last ∧
      (xs ++ [x]).destutter' R first =
        if R last x then xs.destutter' R first ++ [x] else xs.destutter' R first := by
  -- the element compared with moves on with every one that is kept
  induction xs generalizing first with
  | nil => exact ⟨first, rfl, by simp⟩
  | cons y ys ih =>
      by_cases h : R first y
      · obtain ⟨last, hlast, hconcat⟩ := ih y
        refine ⟨last, ?_, ?_⟩
        · rw [List.destutter'_cons_pos ys h, List.getLast?_cons, hlast, Option.getD_some]
        · rw [List.cons_append, List.destutter'_cons_pos _ h, List.destutter'_cons_pos ys h, hconcat]
          split <;> rfl
      · simp only [List.cons_append, List.destutter'_cons_neg _ h]
        exact ih first

theorem destutter_concat (xs : List γ) (x : γ) :
    (xs ++ [x]).destutter R = xs.destutter R ++ [x] ∧
        (∀ last, (xs.destutter R).getLast? = some last → R last x) ∨
      (xs ++ [x]).destutter R = xs.destutter R ∧
        ∃ last, (xs.destutter R).getLast? = some last ∧ ¬ R last x := by
  cases xs with
  | nil => exact .inl ⟨rfl, fun last hlast => nomatch hlast⟩
  | cons first xs =>
      obtain ⟨last, hlast, hconcat⟩ := destutter'_concat (R := R) first xs x
      by_cases h : R last x
      · rw [if_pos h] at hconcat
        refine .inl ⟨hconcat, fun last' hlast' => ?_⟩
        rw [List.destutter_cons', hlast] at hlast'
        exact Option.some.inj hlast' ▸ h
      · rw [if_neg h] at hconcat
        exact .inr ⟨hconcat, last, hlast, h⟩

end Kept

variable {α ρ : Type}

/-- The bars that are kept: each opens at another time than the one kept before it. -/
def keptBars (bars : List (Candle α)) : List (Candle α) :=
  bars.destutter fun last bar => last.openTime ≠ bar.openTime

/-- The bar opens at the time of the last one kept. -/
def Candle.Repeats (bar : Candle α) (kept : List (Candle α)) : Prop :=
  ∃ last, kept.getLast? = some last ∧ last.openTime = bar.openTime

instance (bar : Candle α) (kept : List (Candle α)) : Decidable (bar.Repeats kept) :=
  decidable_of_iff (kept.getLast?.any fun last => last.openTime == bar.openTime)
    (by cases hlast : kept.getLast? <;> simp [Candle.Repeats, hlast])

section Kept

variable {bars : List (Candle α)} {bar : Candle α}

theorem keptBars_concat_of_repeats (h : bar.Repeats (keptBars bars)) :
    keptBars (bars ++ [bar]) = keptBars bars := by
  rcases destutter_concat (R := fun last bar : Candle α => last.openTime ≠ bar.openTime) bars bar
    with ⟨-, hnew⟩ | ⟨hkept, -⟩
  · obtain ⟨last, hlast, htime⟩ := h
    exact absurd htime (hnew last hlast)
  · exact hkept

theorem keptBars_concat_of_new (h : ¬ bar.Repeats (keptBars bars)) :
    keptBars (bars ++ [bar]) = keptBars bars ++ [bar] := by
  rcases destutter_concat (R := fun last bar : Candle α => last.openTime ≠ bar.openTime) bars bar
    with ⟨hkept, -⟩ | ⟨-, last, hlast, htime⟩
  · exact hkept
  · exact absurd ⟨last, hlast, not_not.mp htime⟩ h

theorem isNew_ofList_iff {kept : List (Candle α)} :
    (Series.ofList kept).isNew bar = true ↔ ¬ bar.Repeats kept := by
  rw [Series.isNew_ofList]
  cases hlast : kept.getLast? with
  | none => simp [Candle.Repeats, hlast]
  | some last => simp [Candle.Repeats, hlast]

theorem add_ofList_of_new {kept : List (Candle α)} (h : ¬ bar.Repeats kept) :
    (Series.ofList kept).add bar = .ofList (kept ++ [bar]) := by
  rw [Series.add, if_pos (isNew_ofList_iff.mpr h), Series.push_ofList]

end Kept

def Rule.after (rule : Rule α ρ) (r : ρ) (bars : List (Candle α)) : ρ :=
  bars.foldl (fun r bar => (rule.advise r bar).2) r

theorem Rule.after_concat (rule : Rule α ρ) (r : ρ) (bars : List (Candle α)) (bar : Candle α) :
    rule.after r (bars ++ [bar]) = (rule.advise (rule.after r bars) bar).2 := by
  simp [Rule.after]

variable [Scalar α]

namespace Indicator

/-- A bar that is kept is added to the series, and the indicator is advanced over it. -/
def keep (p : Series α × Indicator α) (bar : Candle α) : Series α × Indicator α :=
  if p.1.isNew bar then (p.1.add bar, p.2.advance (p.1.add bar)) else p

def along (i : Indicator α) (bars : List (Candle α)) : Series α × Indicator α :=
  bars.foldl keep (.empty, i)

theorem along_concat (i : Indicator α) (bars : List (Candle α)) (bar : Candle α) :
    along i (bars ++ [bar]) = keep (along i bars) bar := by
  simp [along]

/-- An indicator that every bar moves on to the one computed from all the bars is always that. -/
theorem along_eq {whole : List (Candle α) → Indicator α}
    (hwhole : ∀ kept bar, (whole kept).advance (.ofList (kept ++ [bar])) = whole (kept ++ [bar]))
    (bars : List (Candle α)) :
    along (whole []) bars = (.ofList (keptBars bars), whole (keptBars bars)) := by
  induction bars using List.reverseRecOn with
  | nil => rfl
  | append_singleton bars bar ih =>
      rw [along_concat, ih, keep]
      by_cases h : bar.Repeats (keptBars bars)
      · rw [keptBars_concat_of_repeats h, if_neg]
        intro hnew
        exact isNew_ofList_iff.mp hnew h
      · rw [keptBars_concat_of_new h, if_pos (isNew_ofList_iff.mpr h)]
        simp only [add_ofList_of_new h, hwhole]

end Indicator

/-- How the body of a bar crosses a level: from below to above, or from above to below, and
strictly on both sides. -/
def Candle.crosses (bar : Candle α) (level : α) : Cross :=
  if Scalar.less bar.openPrice bar.closePrice && Scalar.less bar.openPrice level &&
      Scalar.less level bar.closePrice then .up
  else if Scalar.less bar.closePrice bar.openPrice && Scalar.less level bar.openPrice &&
      Scalar.less bar.closePrice level then .down
  else .none

namespace CrossoverState

variable (fastWindow slowWindow warming : Nat)

/-- The state of the rule that has kept the given bars. -/
def fromScratch (kept : List (Candle α)) : CrossoverState α where
  series := .ofList kept
  fast := .exponentialOver fastWindow kept
  slow := .exponentialOver slowWindow kept
  warming := warming

/-- No signal is given while an average is zero or fewer bars than the warming period are kept. -/
def heldBack (kept : List (Candle α)) : Bool :=
  Scalar.same (Exponential.value fastWindow (closesOf kept)) Scalar.zero ||
    Scalar.same (Exponential.value slowWindow (closesOf kept)) Scalar.zero ||
    decide (kept.length < warming)

/-- The slow average is higher than before the last bar. -/
def hasRisen (kept : List (Candle α)) : Bool :=
  Scalar.less (Exponential.value slowWindow (closesOf kept.dropLast))
    (Exponential.value slowWindow (closesOf kept))

def lastCross (kept : List (Candle α)) : Cross :=
  (kept.getLast?.map (Candle.crosses · (Exponential.value fastWindow (closesOf kept)))).getD .none

def signalFromScratch (kept : List (Candle α)) : Signal :=
  if heldBack fastWindow slowWindow warming kept then .hold
  else match hasRisen slowWindow kept, lastCross fastWindow kept with
    | _, .none => .hold
    | true, .up => .advice .buy .openPosition
    | true, .down => .advice .buy .closePosition
    | false, .down => .advice .sell .openPosition
    | false, .up => .advice .sell .closePosition

variable {fastWindow slowWindow warming} {kept : List (Candle α)} {bar : Candle α}

theorem exponential_eq_fromScratch :
    exponential fastWindow slowWindow warming =
      fromScratch fastWindow slowWindow warming ([] : List (Candle α)) := by
  rw [exponential, start, Indicator.start_exponential, Indicator.start_exponential]
  rfl

/-- A bar that is kept moves the rule on to the state computed with it. -/
theorem observe_fromScratch (h : ¬ bar.Repeats kept) :
    (fromScratch fastWindow slowWindow warming kept).observe bar =
      fromScratch fastWindow slowWindow warming (kept ++ [bar]) := by
  simp only [observe, fromScratch, add_ofList_of_new h, Indicator.advance_exponentialOver]

theorem isReady_fromScratch :
    (fromScratch fastWindow slowWindow warming kept).isReady =
      !heldBack fastWindow slowWindow warming kept := by
  have hbars : decide (warming ≤ kept.length) = !decide (kept.length < warming) := by
    rw [← decide_not]
    exact decide_eq_decide.mpr Nat.not_lt.symm
  rw [heldBack, Bool.not_or, Bool.not_or, ← hbars]
  rfl

theorem condition_fromScratch (bar : Candle α) :
    (fromScratch fastWindow slowWindow warming (kept ++ [bar])).condition =
      verdict (hasRisen slowWindow (kept ++ [bar])) (lastCross fastWindow (kept ++ [bar])) := by
  have hlast : (fromScratch fastWindow slowWindow warming (kept ++ [bar])).series.last = bar :=
    Series.last_ofList_concat kept bar
  rw [condition, Average.crossing, hlast, lastCross, List.getLast?_concat]
  rfl

theorem signal_fromScratch (bar : Candle α) :
    (if (fromScratch fastWindow slowWindow warming (kept ++ [bar])).isReady then
        (fromScratch fastWindow slowWindow warming (kept ++ [bar])).condition
      else .hold) = signalFromScratch fastWindow slowWindow warming (kept ++ [bar]) := by
  rw [isReady_fromScratch, condition_fromScratch, signalFromScratch]
  cases heldBack fastWindow slowWindow warming (kept ++ [bar]) with
  | true => rfl
  | false =>
      cases hasRisen slowWindow (kept ++ [bar]) <;> cases lastCross fastWindow (kept ++ [bar]) <;>
        rfl

theorem advise_repeated (h : bar.Repeats kept) :
    (fromScratch fastWindow slowWindow warming kept).advise bar =
      (.hold, fromScratch fastWindow slowWindow warming kept) := by
  have hnew : ¬ (Series.ofList kept).isNew bar = true := by
    rw [isNew_ofList_iff, not_not]
    exact h
  exact if_neg hnew

theorem advise_kept (h : ¬ bar.Repeats kept) :
    (fromScratch fastWindow slowWindow warming kept).advise bar =
      (signalFromScratch fastWindow slowWindow warming (kept ++ [bar]),
        fromScratch fastWindow slowWindow warming (kept ++ [bar])) := by
  have hnew : (fromScratch fastWindow slowWindow warming kept).series.isNew bar = true :=
    isNew_ofList_iff.mpr h
  rw [advise, if_pos hnew]
  simp only [observe_fromScratch h, signal_fromScratch]

/-- After any list of bars the rule is in the state computed from the bars that are kept. -/
theorem after_eq_fromScratch (fastWindow slowWindow warming : Nat) (bars : List (Candle α)) :
    (crossoverRule α).after (.exponential fastWindow slowWindow warming) bars =
      fromScratch fastWindow slowWindow warming (keptBars bars) := by
  -- from the right: the rule has been asked about the last bar last
  induction bars using List.reverseRecOn with
  | nil => exact exponential_eq_fromScratch
  | append_singleton bars bar ih =>
      rw [Rule.after_concat, ih]
      by_cases h : bar.Repeats (keptBars bars)
      · rw [keptBars_concat_of_repeats h]
        exact congrArg Prod.snd (advise_repeated h)
      · rw [keptBars_concat_of_new h]
        exact congrArg Prod.snd (advise_kept h)

/-- After any list of bars the rule is in the state computed from scratch from the bars that are
kept. A bar that opens at the time of the last one kept is held at and changes nothing; any other
is answered by the signal computed from scratch from all bars up to it. -/
theorem advises_as_from_scratch (fastWindow slowWindow warming : Nat) (bars : List (Candle α))
    (bar : Candle α) :
    let r := (crossoverRule α).after (.exponential fastWindow slowWindow warming) bars
    r = fromScratch fastWindow slowWindow warming (keptBars bars) ∧
      (bar.Repeats (keptBars bars) → (crossoverRule α).advise r bar = (.hold, r)) ∧
      (¬ bar.Repeats (keptBars bars) →
        (crossoverRule α).advise r bar =
          (signalFromScratch fastWindow slowWindow warming (keptBars bars ++ [bar]),
            fromScratch fastWindow slowWindow warming (keptBars bars ++ [bar]))) := by
  intro r
  have hr : r = fromScratch fastWindow slowWindow warming (keptBars bars) :=
    after_eq_fromScratch fastWindow slowWindow warming bars
  refine ⟨hr, fun h => ?_, fun h => ?_⟩
  · rw [hr]
    exact advise_repeated h
  · rw [hr]
    exact advise_kept h

/-- A bar that rises through the fast average is bought, and a correction of the bar before it is
held at, whatever its prices. -/
theorem correction_held_and_rise_bought :
    let bar (hour : Int) (openPrice closePrice : Rat) : Candle Rat :=
      { Candle.blank with openTime := .ofMillis (hour * 3600000), openPrice, closePrice }
    let bars := [bar 0 10 10, bar 1 10 11]
    let r := (crossoverRule Rat).after (.exponential 2 3 3) bars
    ((bar 1 90 1).Repeats (keptBars bars) ∧ (crossoverRule Rat).advise r (bar 1 90 1) = (.hold, r)) ∧
      ¬ (bar 2 11 12).Repeats (keptBars bars) ∧
      ((crossoverRule Rat).advise r (bar 2 11 12)).1 = .advice .buy .openPosition := by
  intro bar bars r
  have hrepeats : (bar 1 90 1).Repeats (keptBars bars) := by decide +kernel
  have hnew : ¬ (bar 2 11 12).Repeats (keptBars bars) := by decide +kernel
  have hheld := (advises_as_from_scratch 2 3 3 bars (bar 1 90 1)).2.1 hrepeats
  have hkept := (advises_as_from_scratch 2 3 3 bars (bar 2 11 12)).2.2 hnew
  refine ⟨⟨hrepeats, hheld⟩, hnew, ?_⟩
  rw [hkept]
  decide +kernel

end CrossoverState

end Crossover

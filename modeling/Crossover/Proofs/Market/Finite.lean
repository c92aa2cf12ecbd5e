import Crossover.Proofs.Market.FromScratch
import Crossover.Proofs.Market.Kline
import Crossover.Proofs.Number.Decimals

/-!
# Finite bars

A number that stands in a kline dump is finite, but a quoted field may be anything that reads as
a number. So a bar is finite just if its quoted prices and volume are decimals in range. A bar
whose close is not a number spoils every average over it: the crossover rule, which compares with
such an average, holds from then on.
-/

namespace Crossover

open Json (Value SpellsNumber Spells Elements)

structure Candle.Finite (bar : Candle Float) : Prop where
  openPrice : bar.openPrice.isFinite = true
  high : bar.high.isFinite = true
  low : bar.low.isFinite = true
  closePrice : bar.closePrice.isFinite = true
  volume : bar.volume.isFinite = true

/-! ## Numbers in a text -/

namespace Json

theorem Elements.exists_of_mem {α : Type} {spells : α → List Char → Prop} {first : Bool}
    {as : List α} {t : List Char} (h : Elements spells first as t) {a : α} (ha : a ∈ as) :
    ∃ u, spells a u := by
  induction h with
  | nil => cases ha
  | @cons first b as lead u rest hlead hb _ ih =>
      rcases List.mem_cons.mp ha with rfl | ha
      · exact ⟨u, hb⟩
      · exact ih ha

theorem Spells.exists_of_mem {levels : ℕ} {vs : List Value} {t : List Char}
    (h : Spells levels (.list vs) t) {v : Value} (hv : v ∈ vs) :
    ∃ below u, Spells below v u := by
  cases levels with
  | zero => cases h
  | succ below =>
      obtain ⟨helements⟩ := (spells_list_iff below vs t).mp h
      obtain ⟨u, hu⟩ := helements.exists_of_mem hv
      exact ⟨below, u, hu⟩

theorem Spells.number {levels : ℕ} {n : Number} {t : List Char} (h : Spells levels (.number n) t) :
    SpellsNumber n t := by
  have hscalar : SpellsScalar (.number n) t := by
    cases levels with
    | zero => exact h
    | succ below =>
        rcases h with hscalar | hover
        · exact hscalar
        · cases hover
  cases hscalar with
  | number hnumber => exact hnumber

end Json

namespace Kline

/-- Prices and the volume are decimals in range where they are quoted. -/
def QuotedInRange (fields : List Value) : Prop :=
  ∀ i s, 1 ≤ i → i ≤ 5 → fields[i]? = some (.string s) → NumberText.InRange s.toList

/-- Every number of a dump is finite. -/
theorem IsDump.isFinite {rows : List (List Value)} {text : String} (h : IsDump rows text)
    {fields : List Value} (hfields : fields ∈ rows) {n : Json.Number}
    (hn : Value.number n ∈ fields) : n.toFloat.isFinite = true := by
  rw [IsDump] at h
  generalize text.toList = cs at h
  obtain ⟨-, hspells, -⟩ := h
  obtain ⟨below, u, hrow⟩ := hspells.exists_of_mem (List.mem_map_of_mem hfields)
  obtain ⟨below, u, hnumber⟩ := hrow.exists_of_mem hn
  exact hnumber.number.isFinite

theorem ReadsAt.isFinite_iff {fields : List Value} {i : ℕ} {x : Float}
    (hnumbers : ∀ n : Json.Number, .number n ∈ fields → n.toFloat.isFinite = true)
    (h : ReadsAt fields i x) :
    x.isFinite = true ↔ ∀ s, fields[i]? = some (.string s) → NumberText.InRange s.toList := by
  obtain ⟨v, hv, hread⟩ := h
  cases hread with
  | number n =>
      refine iff_of_true (hnumbers n (List.mem_of_getElem? hv)) fun s hs => ?_
      cases hv.symm.trans hs
  | @text s x hs =>
      constructor
      · intro hfinite s' hs'
        cases hv.symm.trans hs'
        exact NumberText.exists_float?_iff.mp ⟨x, hs, hfinite⟩
      · intro hrange
        obtain ⟨y, hy, hfinite⟩ := NumberText.exists_float?_iff.mpr (hrange s hv)
        cases hs.symm.trans hy
        exact hfinite

theorem IsBar.finite_iff {fields : List Value} {bar : Candle Float}
    (hnumbers : ∀ n : Json.Number, .number n ∈ fields → n.toFloat.isFinite = true)
    (h : IsBar fields bar) : bar.Finite ↔ QuotedInRange fields := by
  have hopen := h.openPrice.isFinite_iff hnumbers
  have hhigh := h.high.isFinite_iff hnumbers
  have hlow := h.low.isFinite_iff hnumbers
  have hclose := h.closePrice.isFinite_iff hnumbers
  have hvolume := h.volume.isFinite_iff hnumbers
  constructor
  · intro hbar i s hfirst hlast hs
    obtain rfl | rfl | rfl | rfl | rfl : i = 1 ∨ i = 2 ∨ i = 3 ∨ i = 4 ∨ i = 5 := by omega
    · exact hopen.mp hbar.openPrice s hs
    · exact hhigh.mp hbar.high s hs
    · exact hlow.mp hbar.low s hs
    · exact hclose.mp hbar.closePrice s hs
    · exact hvolume.mp hbar.volume s hs
  · intro hquoted
    exact {
      openPrice := hopen.mpr fun s => hquoted 1 s (by decide) (by decide)
      high := hhigh.mpr fun s => hquoted 2 s (by decide) (by decide)
      low := hlow.mpr fun s => hquoted 3 s (by decide) (by decide)
      closePrice := hclose.mpr fun s => hquoted 4 s (by decide) (by decide)
      volume := hvolume.mpr fun s => hquoted 5 s (by decide) (by decide) }

theorem exists_isDump {text : String} {bars : List (Candle Float)} (h : parse text = .ok bars) :
    ∃ rows, IsDump rows text := by
  unfold parse at h
  cases hread : (Json.Reader.list (Json.Reader.list Value.read)).run text.toList with
  | error e =>
      rw [hread] at h
      cases h
  | ok rows => exact ⟨rows, (Json.run_lists_eq_ok_iff rows text.toList).mp hread⟩

/-- The bars of a dump are finite row by row. -/
theorem IsDump.forall₂_finite_iff {rows : List (List Value)} {text : String}
    (h : IsDump rows text) {bars : List (Candle Float)} (hparse : parse text = .ok bars) :
    List.Forall₂ (fun fields bar => bar.Finite ↔ QuotedInRange fields) rows bars := by
  have hbars : List.Forall₂ IsBar rows bars := by
    rwa [parse_of_isDump h, candles_eq_ok_iff] at hparse
  have hnumbers : ∀ fields ∈ rows, ∀ n : Json.Number, .number n ∈ fields →
      n.toFloat.isFinite = true := fun _ hfields _ => h.isFinite hfields
  have hboth := (List.forall₂_and_left rows bars).mpr ⟨hnumbers, hbars⟩
  exact hboth.imp fun fields bar h => h.2.finite_iff h.1

theorem forall_finite_iff {rows : List (List Value)} {bars : List (Candle Float)}
    (h : List.Forall₂ (fun fields bar => bar.Finite ↔ QuotedInRange fields) rows bars) :
    (∀ bar ∈ bars, bar.Finite) ↔ ∀ fields ∈ rows, QuotedInRange fields := by
  induction h with
  | nil => simp
  | cons hbar _ ih => rw [List.forall_mem_cons, List.forall_mem_cons, hbar, ih]

/-- The bars that a text is read as are all finite just if the quoted prices and volumes of its
rows are decimals in range. Among the bars of a dump, these are the ones whose own rows are so. -/
theorem finite_iff_quoted_in_range (text : String) :
    ((∀ bars, parse text = .ok bars → ∀ bar ∈ bars, bar.Finite) ↔
      ∀ rows, IsDump rows text → (∀ fields ∈ rows, Complete fields) →
        ∀ fields ∈ rows, QuotedInRange fields) ∧
    ∀ rows bars, IsDump rows text → parse text = .ok bars →
      List.Forall₂ (fun fields bar => bar.Finite ↔ QuotedInRange fields) rows bars := by
  refine ⟨⟨fun h rows hdump hcomplete => ?_, fun h bars hbars => ?_⟩,
    fun rows bars hdump hbars => hdump.forall₂_finite_iff hbars⟩
  · obtain ⟨bars, hbars⟩ := (exists_candles_iff 0 rows).mpr hcomplete
    have hparse : parse text = .ok bars := (parse_of_isDump hdump).trans hbars
    exact (forall_finite_iff (hdump.forall₂_finite_iff hparse)).mp (h bars hparse)
  · obtain ⟨rows, hdump⟩ := exists_isDump hbars
    have hcandles : candles 0 rows = .ok bars := (parse_of_isDump hdump).symm.trans hbars
    have hcomplete := (exists_candles_iff 0 rows).mp ⟨bars, hcandles⟩
    exact (forall_finite_iff (hdump.forall₂_finite_iff hbars)).mpr (h rows hdump hcomplete)

end Kline

/-! ## Averages over what is not a number -/

theorem isNaN_foldl {f : Float → Float → Float}
    (hf : ∀ a x, a.isNaN = true ∨ x.isNaN = true → (f a x).isNaN = true) {xs : List Float}
    {a : Float} (h : a.isNaN = true ∨ ∃ x ∈ xs, x.isNaN = true) : (xs.foldl f a).isNaN = true := by
  induction xs generalizing a with
  | nil =>
      rcases h with h | ⟨x, hx, -⟩
      · exact h
      · cases hx
  | cons x xs ih =>
      refine ih ?_
      rcases h with h | ⟨y, hy, h⟩
      · exact .inl (hf a x (.inl h))
      · rcases List.mem_cons.mp hy with rfl | hy
        · exact .inl (hf a y (.inr h))
        · exact .inr ⟨y, hy, h⟩

namespace Exponential

theorem isNaN_mean {xs : List Float} (h : ∃ x ∈ xs, x.isNaN = true) : (mean xs).isNaN = true := by
  obtain ⟨x, hx, hnan⟩ := h
  have hsome : ¬ xs.isEmpty = true := by
    rw [List.isEmpty_iff]
    exact List.ne_nil_of_mem hx
  have hsum : (Scalar.sum xs).isNaN = true :=
    isNaN_foldl (fun _ _ => isNaN_add) (.inr ⟨x, hx, hnan⟩)
  rw [mean, if_neg hsome]
  exact isNaN_div_left hsum _

theorem isNaN_toward (window : ℕ) {average close : Float}
    (h : average.isNaN = true ∨ close.isNaN = true) :
    (toward window average close).isNaN = true := by
  rcases h with h | h
  · exact isNaN_add (.inr h)
  · exact isNaN_add (.inl (isNaN_mul_left (isNaN_sub_left h _) _))

theorem isNaN_value {window : ℕ} {closes : List Float} (hfull : window ≤ closes.length)
    (h : ∃ x ∈ closes, x.isNaN = true) : (value window closes).isNaN = true := by
  obtain ⟨x, hx, hnan⟩ := h
  rw [value, if_neg (Nat.not_lt.mpr hfull)]
  refine isNaN_foldl (fun _ _ => isNaN_toward window) ?_
  rw [← List.take_append_drop window closes, List.mem_append] at hx
  rcases hx with hx | hx
  · exact .inl (isNaN_mean ⟨x, hx, hnan⟩)
  · exact .inr ⟨x, hx, hnan⟩

end Exponential

theorem crosses_of_isNaN {level : Float} (h : level.isNaN = true) (bar : Candle Float) :
    bar.crosses level = .none := by
  have hless (x : Float) : Scalar.less x level = false := decide_eq_false (not_lt_of_isNaN h x)
  rw [Candle.crosses, hless, hless]
  simp

namespace CrossoverState

/-- No bar is answered with an advice if a kept close is not a number. -/
theorem signalFromScratch_of_isNaN (fastWindow slowWindow warming : ℕ)
    {kept : List (Candle Float)} (h : ∃ bar ∈ kept, bar.closePrice.isNaN = true) :
    signalFromScratch fastWindow slowWindow warming kept = .hold := by
  by_cases hfull : fastWindow ≤ kept.length
  · obtain ⟨bar, hbar, hnan⟩ := h
    have hvalue : (Exponential.value fastWindow (closesOf kept)).isNaN = true :=
      Exponential.isNaN_value (by rwa [length_closesOf]) ⟨_, List.mem_map_of_mem hbar, hnan⟩
    have hcross : lastCross fastWindow kept = .none := by
      unfold lastCross
      cases kept.getLast? with
      | none => rfl
      | some last => exact crosses_of_isNaN hvalue last
    rw [signalFromScratch, hcross]
    split <;> rfl
  · have hzero : Exponential.value fastWindow (closesOf kept) = (Scalar.zero : Float) :=
      Exponential.value_of_lt (by rw [length_closesOf]; omega)
    have hsame : Scalar.same (Scalar.zero : Float) Scalar.zero = true := rfl
    rw [signalFromScratch, heldBack, hzero, hsame]
    rfl

theorem holds_after_isNaN (fastWindow slowWindow warming : ℕ) {bars : List (Candle Float)}
    (h : ∃ bar ∈ keptBars bars, bar.closePrice.isNaN = true) (next : Candle Float) :
    ((crossoverRule Float).advise
      ((crossoverRule Float).after (.exponential fastWindow slowWindow warming) bars) next).1 =
        .hold := by
  rw [after_eq_fromScratch]
  by_cases hnext : next.Repeats (keptBars bars)
  · exact congrArg Prod.fst (advise_repeated hnext)
  · refine (congrArg Prod.fst (advise_kept hnext)).trans (signalFromScratch_of_isNaN _ _ _ ?_)
    obtain ⟨bar, hbar, hnan⟩ := h
    exact ⟨bar, List.mem_append_left _ hbar, hnan⟩

end CrossoverState

theorem mem_keptBars_cons (bar : Candle Float) (bars : List (Candle Float)) :
    bar ∈ keptBars (bar :: bars) :=
  List.mem_destutter' bars _ bar

namespace Kline

/-- A dump is read as a bar whose close is not a number, and no rule ever advises after it. -/
theorem not_a_number_accepted :
    ∃ bar, parse "[[1, \"2\", \"3\", \"1\", \"nan\", \"6\", 7]]" = .ok [bar] ∧ ¬ bar.Finite ∧
      ∀ fastWindow slowWindow warming later next,
        ((crossoverRule Float).advise
          ((crossoverRule Float).after (.exponential fastWindow slowWindow warming) (bar :: later))
          next).1 = .hold := by
  have hread : (parse "[[1, \"2\", \"3\", \"1\", \"nan\", \"6\", 7]]").toOption.any (fun bars =>
      bars.length == 1 && bars.all (·.closePrice.isNaN)) = true := by
    decide +kernel
  cases hparse : parse "[[1, \"2\", \"3\", \"1\", \"nan\", \"6\", 7]]" with
  | error e =>
      rw [hparse] at hread
      cases hread
  | ok bars =>
      rw [hparse] at hread
      obtain ⟨hlength, hnan⟩ := Bool.and_eq_true_iff.mp hread
      obtain ⟨bar, rfl⟩ := List.length_eq_one_iff.mp (beq_iff_eq.mp hlength)
      have hclose : bar.closePrice.isNaN = true := List.all_eq_true.mp hnan bar List.mem_cons_self
      refine ⟨bar, rfl, fun h => not_isFinite_of_isNaN hclose h.closePrice, ?_⟩
      intro fastWindow slowWindow warming later next
      exact CrossoverState.holds_after_isNaN _ _ _ ⟨bar, mem_keptBars_cons bar later, hclose⟩ next

end Kline

end Crossover

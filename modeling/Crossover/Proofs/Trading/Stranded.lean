import Mathlib.Tactic.Linarith
import Crossover.Proofs.Number.Exact
import Crossover.Proofs.Trading.Ledger

/-!
# Stranded positions

Closing a purchase pays in the base coin, closing a sale in the alt coin. A fixed budget moves the
balances before it looks at them, so a close that is refused because that coin has run dry leaves
it drier still. As every opening begins with closing what is open, the position is stranded: no
signal and no price ever closes it, nothing is opened again, and every advice takes one more leg
out of the balances.
-/

namespace Crossover

variable {ρ : Type}

namespace Balances

/-- The coin with which a position on a side is closed has run dry. -/
def DriedUp (b : Balances Rat) : Side → Prop
  | .buy => b.base ≤ 1 / 1000
  | .sell => b.alt ≤ 1

variable {b : Balances Rat} {side : Side} {price : Rat}

/-- One more close is paid for with the coin that has run dry, and the price does not help. -/
theorem DriedUp.trade (h : b.DriedUp side) (hlot : 0 < b.lot) (hprice : 0 ≤ price) :
    (b.trade side.opposite price).DriedUp side := by
  cases side with
  | buy =>
      have hbase : b.base ≤ 1 / 1000 := h
      show b.base - b.lot ≤ 1 / 1000
      linarith
  | sell =>
      have halt : b.alt ≤ 1 := h
      have hpaid : 0 ≤ b.lot * price := mul_nonneg hlot.le hprice
      show b.alt - b.lot * price ≤ 1
      linarith

theorem leastBase_rat : (leastBase : Rat) = 1 / 1000 := by
  norm_num [leastBase]

theorem leastAlt_rat : (leastAlt : Rat) = 1 := by
  norm_num [leastAlt]

def lacking (b : Balances Rat) : Failure Rat :=
  .ofFault (.insufficientFunds b.base b.alt)

theorem DriedUp.refuses (h : b.DriedUp side) : b.lotUnlessDry = .error b.lacking := by
  have hdry : b.isDry = true := by
    rw [isDry, Bool.or_eq_true, Scalar.atMost_rat, Scalar.atMost_rat, decide_eq_true_eq,
      decide_eq_true_eq, leastBase_rat, leastAlt_rat]
    cases side with
    | buy => exact .inl h
    | sell => exact .inr h
  rw [lotUnlessDry, if_pos hdry]
  rfl

end Balances

namespace Simulated

/-- The last position is open, and the coin to close it with has run dry. -/
structure Stranded (p : Position Rat) (s : Simulated Rat (Balances Rat)) : Prop where
  current : s.current? = some p
  lot_pos : 0 < s.budget.lot
  driedUp : s.budget.DriedUp p.side

/-- The balances are moved by a closing leg, and the ledger is left alone. -/
def paying (p : Position Rat) (candle : Candle Rat) (s : Simulated Rat (Balances Rat)) :
    Simulated Rat (Balances Rat) :=
  ⟨s.budget.trade p.side.opposite candle.closePrice, s.ledger⟩

theorem status_of_current? {α β : Type} {s : Simulated α β} {p : Position α}
    (h : s.current? = some p) : p.status = .opened :=
  Position.isOpen_iff.mp (Option.filter_eq_some_iff.mp h).2

section Refused

variable {p : Position Rat} {s : Simulated Rat (Balances Rat)} {candle : Candle Rat}
  (hcurrent : s.current? = some p) (hdry : (s.paying p candle).budget.DriedUp p.side)

include hcurrent hdry

theorem close_refused :
    close (fixedBudget Rat) candle s =
      ⟨s.paying p candle, [], .error (s.paying p candle).budget.lacking⟩ := by
  have hrefused : (fixedBudget Rat).bookClose s.budget p.side p.status candle =
      (.error (s.paying p candle).budget.lacking, (s.paying p candle).budget) := by
    rw [status_of_current? hcurrent]
    exact Prod.ext hdry.refuses rfl
  simp only [close, hcurrent, hrefused]
  rfl

/-- A close that runs the coin dry is refused, and that strands the position. -/
theorem stranded_of_refused (hlot : 0 < s.budget.lot) :
    Stranded p (close (fixedBudget Rat) candle s).state := by
  rw [close_refused hcurrent hdry]
  refine ⟨hcurrent, ?_, hdry⟩
  rw [paying, Balances.trade_lot]
  exact hlot

end Refused

namespace Stranded

variable {p : Position Rat} {s : Simulated Rat (Balances Rat)} {candle : Candle Rat}

section Step

variable (h : Stranded p s) (hprice : 0 ≤ candle.closePrice)

include h hprice

theorem stays : Stranded p (s.paying p candle) where
  current := h.current
  lot_pos := by
    rw [paying, Balances.trade_lot]
    exact h.lot_pos
  driedUp := h.driedUp.trade h.lot_pos hprice

theorem attempt_eq (side : Side) (action : Action) :
    ∃ notes, attempt (fixedBudget Rat) side action candle s =
      ⟨s.paying p candle, notes, .error (s.paying p candle).budget.lacking⟩ := by
  have hclose := close_refused h.current (h.stays hprice).driedUp
  cases action with
  | closePosition => exact ⟨[], hclose⟩
  | openPosition =>
      -- nothing is opened before what is open has been closed
      refine ⟨[.forceClosing s.budget], ?_⟩
      simp only [attempt, openPosition, h.current, hclose]

/-- Whatever is advised is skipped, and the position is paid for once more without being closed. -/
theorem act_eq (side : Side) (action : Action) :
    ∃ notes, act (fixedBudget Rat) side action candle s =
      ⟨s.paying p candle,
        notes ++ [.skipped side action candle.closePrice (s.paying p candle).budget.lacking],
        .ok ()⟩ := by
  obtain ⟨notes, hattempt⟩ := h.attempt_eq hprice side action
  refine ⟨notes, ?_⟩
  rw [act_eq_judged, hattempt]
  rfl

/-- A step leaves the position stranded and the ledger as it is. -/
theorem step (rule : Rule Rat ρ) (r : ρ) :
    Stranded p (handle rule (fixedBudget Rat) candle (s, r)).1.state ∧
      (handle rule (fixedBudget Rat) candle (s, r)).1.state.ledger = s.ledger := by
  rw [handle_state]
  cases (rule.advise r candle).1 with
  | hold => exact ⟨h, rfl⟩
  | advice side action =>
      obtain ⟨notes, hact⟩ := h.act_eq hprice side action
      rw [follow, hact]
      exact ⟨h.stays hprice, rfl⟩

/-- A step on an advice ends well, and the last thing it reports is that the advice was skipped. -/
theorem skips (rule : Rule Rat ρ) (r : ρ) {side : Side} {action : Action}
    (hadvice : (rule.advise r candle).1 = .advice side action) :
    let turn := (handle rule (fixedBudget Rat) candle (s, r)).1
    turn.state = s.paying p candle ∧ turn.result = .ok () ∧
      turn.notes.getLast? =
        some (.skipped side action candle.closePrice (s.paying p candle).budget.lacking) := by
  intro turn
  obtain ⟨notes, hact⟩ := h.act_eq hprice side action
  have hfollow : follow (fixedBudget Rat) (rule.advise r candle).1 candle s =
      act (fixedBudget Rat) side action candle s := by
    rw [hadvice]
    rfl
  refine ⟨?_, ?_, ?_⟩
  · show (follow (fixedBudget Rat) (rule.advise r candle).1 candle s).state = _
    rw [hfollow, hact]
  · show (follow (fixedBudget Rat) (rule.advise r candle).1 candle s).result = _
    rw [hfollow, hact]
  · show (_ ++ (follow (fixedBudget Rat) (rule.advise r candle).1 candle s).notes).getLast? = _
    rw [hfollow, hact, ← List.append_assoc, List.getLast?_concat]

end Step

/-- A run leaves the position stranded and the ledger as it is. -/
theorem run (rule : Rule Rat ρ) (bars : List (Candle Rat)) (h : Stranded p s) (r : ρ)
    (hprices : ∀ c ∈ bars, 0 ≤ c.closePrice) :
    Stranded p (handleAll rule (fixedBudget Rat) bars (s, r)).1 ∧
      (handleAll rule (fixedBudget Rat) bars (s, r)).1.ledger = s.ledger := by
  induction bars generalizing s r with
  | nil => exact ⟨h, rfl⟩
  | cons bar bars ih =>
      obtain ⟨hnext, hledger⟩ := h.step (hprices bar List.mem_cons_self) rule r
      obtain ⟨hlater, hsame⟩ := ih hnext (rule.advise r bar).2
        fun c hc => hprices c (List.mem_cons_of_mem bar hc)
      exact ⟨hlater, hsame.trans hledger⟩

end Stranded

end Simulated

end Crossover

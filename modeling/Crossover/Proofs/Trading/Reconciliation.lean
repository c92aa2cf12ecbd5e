import Mathlib.Tactic.Ring
import Mathlib.Tactic.Linarith
import Crossover.Proofs.Number.Exact
import Crossover.Proofs.Trading.Calls

/-!
# The balances and the ledger

Every order of the ledger, and every call that the budget refused for lack of funds, is a leg: a
lot that changed hands on a side at a price. Read over exact rationals, the balances of a fixed
budget are at any time the initial ones moved by these legs and by nothing else. With no refused
call and nothing open, what the alt coin has gained is the profit of the ledger.
-/

namespace Crossover

variable {α ρ : Type}

/-- A quantity that changes hands at a price. -/
structure Leg (α : Type) where
  side : Side
  quantity : α
  price : α
deriving DecidableEq

def Order.leg (o : Order α) : Leg α :=
  ⟨o.side, o.quantity, o.price⟩

def Position.legs (p : Position α) : List (Leg α) :=
  p.orders.map Order.leg

def ledgerLegs (ledger : List (Position α)) : List (Leg α) :=
  ledger.flatMap Position.legs

def Failure.lacksFunds (f : Failure α) : Bool :=
  match f.cause with
  | .fault (.insufficientFunds _ _) => true
  | _ => false

namespace Budget.Call

/-- The leg behind a call: closing a position trades against its side. -/
def leg (lot : α) : Call α → Leg α
  | .opening side candle _ => ⟨side, lot, candle.closePrice⟩
  | .closing side _ candle _ => ⟨side.opposite, lot, candle.closePrice⟩

def lacksFunds (call : Call α) : Bool :=
  match call.reply with
  | .ok _ => false
  | .error f => f.lacksFunds

end Budget.Call

def refusedLegs (lot : α) (calls : List (Budget.Call α)) : List (Leg α) :=
  (calls.filter Budget.Call.lacksFunds).map (Budget.Call.leg lot)

namespace Leg

def on (side : Side) (legs : List (Leg Rat)) : List (Leg Rat) :=
  legs.filter fun l => l.side = side

def quantityOn (side : Side) (legs : List (Leg Rat)) : Rat :=
  ((on side legs).map fun l => l.quantity).sum

def valueOn (side : Side) (legs : List (Leg Rat)) : Rat :=
  ((on side legs).map fun l => l.quantity * l.price).sum

theorem on_perm {legs legs' : List (Leg Rat)} (h : legs.Perm legs') (side : Side) :
    (on side legs).Perm (on side legs') :=
  h.filter _

theorem quantityOn_perm {legs legs' : List (Leg Rat)} (h : legs.Perm legs') (side : Side) :
    quantityOn side legs = quantityOn side legs' :=
  ((on_perm h side).map _).sum_eq

theorem valueOn_perm {legs legs' : List (Leg Rat)} (h : legs.Perm legs') (side : Side) :
    valueOn side legs = valueOn side legs' :=
  ((on_perm h side).map _).sum_eq

@[simp] theorem quantityOn_nil (side : Side) : quantityOn side [] = 0 := rfl

@[simp] theorem valueOn_nil (side : Side) : valueOn side [] = 0 := rfl

@[simp] theorem quantityOn_append (side : Side) (legs legs' : List (Leg Rat)) :
    quantityOn side (legs ++ legs') = quantityOn side legs + quantityOn side legs' := by
  simp [quantityOn, on]

@[simp] theorem valueOn_append (side : Side) (legs legs' : List (Leg Rat)) :
    valueOn side (legs ++ legs') = valueOn side legs + valueOn side legs' := by
  simp [valueOn, on]

@[simp] theorem quantityOn_cons (side : Side) (l : Leg Rat) (legs : List (Leg Rat)) :
    quantityOn side (l :: legs) =
      (if l.side = side then l.quantity else 0) + quantityOn side legs := by
  by_cases h : l.side = side <;> simp [quantityOn, on, h]

@[simp] theorem valueOn_cons (side : Side) (l : Leg Rat) (legs : List (Leg Rat)) :
    valueOn side (l :: legs) =
      (if l.side = side then l.quantity * l.price else 0) + valueOn side legs := by
  by_cases h : l.side = side <;> simp [valueOn, on, h]

end Leg

namespace Balances

theorem trade_base (b : Balances Rat) (side : Side) (price : Rat) :
    (b.trade side price).base =
      b.base + (if side = .buy then b.lot else 0) - (if side = .sell then b.lot else 0) := by
  cases side <;> simp [trade, buyLot, sellLot]

theorem trade_alt (b : Balances Rat) (side : Side) (price : Rat) :
    (b.trade side price).alt =
      b.alt - (if side = .buy then b.lot * price else 0) +
        (if side = .sell then b.lot * price else 0) := by
  cases side <;> simp [trade, buyLot, sellLot]

theorem lot_of_lotUnlessDry [Scalar α] {b : Balances α} {quantity : α}
    (h : b.lotUnlessDry = .ok quantity) : quantity = b.lot := by
  unfold lotUnlessDry at h
  split at h
  · cases h
  · exact (Except.ok.inj h).symm

theorem lacksFunds_of_lotUnlessDry [Scalar α] {b : Balances α} {f : Failure α}
    (h : b.lotUnlessDry = .error f) : f.lacksFunds = true := by
  unfold lotUnlessDry at h
  split at h
  · rw [← Except.error.inj h]
    rfl
  · cases h

end Balances

open Leg

/-- The balances are the given funds moved by the given legs. -/
structure Reconciles (funds b : Balances Rat) (legs : List (Leg Rat)) : Prop where
  lot : b.lot = funds.lot
  base : b.base = funds.base + quantityOn .buy legs - quantityOn .sell legs
  alt : b.alt = funds.alt - valueOn .buy legs + valueOn .sell legs

namespace Reconciles

variable {funds b : Balances Rat} {legs legs' : List (Leg Rat)}

theorem start (funds : Balances Rat) : Reconciles funds funds [] where
  lot := rfl
  base := by simp
  alt := by simp

theorem perm (h : Reconciles funds b legs) (hp : legs.Perm legs') :
    Reconciles funds b legs' where
  lot := h.lot
  base := by rw [h.base, quantityOn_perm hp, quantityOn_perm hp]
  alt := by rw [h.alt, valueOn_perm hp, valueOn_perm hp]

theorem trade (h : Reconciles funds b legs) (side : Side) (price : Rat) :
    Reconciles funds (b.trade side price) (⟨side, funds.lot, price⟩ :: legs) where
  lot := (b.trade_lot side price).trans h.lot
  base := by
    rw [b.trade_base, h.base, h.lot, quantityOn_cons, quantityOn_cons]
    ring
  alt := by
    rw [b.trade_alt, h.alt, h.lot, valueOn_cons, valueOn_cons]
    ring

end Reconciles

theorem refusedLegs_concat (lot : α) (calls : List (Budget.Call α)) (call : Budget.Call α) :
    refusedLegs lot (calls ++ [call]) =
      refusedLegs lot calls ++ if call.lacksFunds then [call.leg lot] else [] := by
  by_cases h : call.lacksFunds = true <;> simp [refusedLegs, h]

theorem leg_mem_ledgerLegs {ledger : List (Position α)} {p : Position α} {o : Order α}
    (hp : p ∈ ledger) (ho : o ∈ p.orders) : o.leg ∈ ledgerLegs ledger :=
  List.mem_flatMap_of_mem hp (List.mem_map_of_mem ho)

theorem ledgerLegs_concat (ledger : List (Position α)) (p : Position α) :
    ledgerLegs (ledger ++ [p]) = ledgerLegs ledger ++ p.legs := by
  simp [ledgerLegs]

namespace Simulated

def allLegs (lot : α) (s : Simulated α (Balances α × List (Budget.Call α))) : List (Leg α) :=
  ledgerLegs s.ledger ++ refusedLegs lot s.budget.2

section Legs

variable {lot : α} {l : Leg α} {s t : Simulated α (Balances α × List (Budget.Call α))}

theorem allLegs_ordered (hledger : ledgerLegs t.ledger = ledgerLegs s.ledger ++ [l])
    (hrefused : refusedLegs lot t.budget.2 = refusedLegs lot s.budget.2) :
    (l :: s.allLegs lot).Perm (t.allLegs lot) := by
  rw [allLegs, allLegs, hledger, hrefused, List.append_assoc]
  exact List.perm_middle.symm

theorem allLegs_refused (hledger : t.ledger = s.ledger)
    (hrefused : refusedLegs lot t.budget.2 = refusedLegs lot s.budget.2 ++ [l]) :
    (l :: s.allLegs lot).Perm (t.allLegs lot) := by
  rw [allLegs, allLegs, hledger, hrefused, ← List.append_assoc]
  exact (List.perm_append_singleton l _).symm

end Legs

theorem legs_closedAt {p : Position α} {o : Order α} (ho : p.orders = [o]) (candle : Candle α) :
    (closedAt p o candle).legs =
      p.legs ++ [⟨p.side.opposite, o.quantity, candle.closePrice⟩] := by
  simp [closedAt, Position.close, Position.legs, ho, fillClosing, Order.leg]

/-- The balances are the funds moved by the legs of the state, and every order is for one lot. -/
structure Reconciled (funds : Balances Rat)
    (s : Simulated Rat (Balances Rat × List (Budget.Call Rat))) : Prop where
  reconciles : Reconciles funds s.budget.1 (s.allLegs funds.lot)
  lots : ∀ l ∈ ledgerLegs s.ledger, l.quantity = funds.lot

section Steps

variable {funds : Balances Rat} {side : Side} {candle : Candle Rat}
  {r : Except (Failure Rat) Unit} {s t : Simulated Rat (Balances Rat × List (Budget.Call Rat))}

/-- One more leg at the end of the ledger, and the balances moved by it. -/
theorem Reconciled.ordered (hs : Reconciled funds s) {price : Rat}
    (hbudget : t.budget.1 = s.budget.1.trade side price)
    (hledger : ledgerLegs t.ledger = ledgerLegs s.ledger ++ [⟨side, funds.lot, price⟩])
    (hrefused : refusedLegs funds.lot t.budget.2 = refusedLegs funds.lot s.budget.2) :
    Reconciled funds t := by
  refine ⟨?_, fun l hl => ?_⟩
  · rw [hbudget]
    exact (hs.reconciles.trade side price).perm (allLegs_ordered hledger hrefused)
  · rw [hledger] at hl
    rcases List.mem_append.mp hl with hl | hl
    · exact hs.lots l hl
    · rw [List.mem_singleton.mp hl]

/-- One more refused call, and the balances moved by it all the same. -/
theorem Reconciled.refused (hs : Reconciled funds s) {price : Rat}
    (hbudget : t.budget.1 = s.budget.1.trade side price) (hledger : t.ledger = s.ledger)
    (hrefused : refusedLegs funds.lot t.budget.2 =
      refusedLegs funds.lot s.budget.2 ++ [⟨side, funds.lot, price⟩]) :
    Reconciled funds t := by
  refine ⟨?_, hledger ▸ hs.lots⟩
  rw [hbudget]
  exact (hs.reconciles.trade side price).perm (allLegs_refused hledger hrefused)

theorem Reconciled.closes (hs : Reconciled funds s)
    (h : Closes (fixedBudget Rat).recording candle s r t) : Reconciled funds t := by
  cases h with
  | @refused settled p o f b hholds hb =>
      obtain ⟨hb, hcalls⟩ := Budget.recording_bookClose hb
      obtain ⟨hdry, hmoved⟩ := Prod.mk.inj hb
      have hlacks := Balances.lacksFunds_of_lotUnlessDry hdry
      refine hs.refused hmoved.symm rfl ?_
      rw [hcalls, refusedLegs_concat, Budget.Call.lacksFunds, Budget.Call.reply, if_pos hlacks]
      rfl
  | @done settled p o quantity b hholds hb =>
      obtain ⟨hb, hcalls⟩ := Budget.recording_bookClose hb
      obtain ⟨-, hmoved⟩ := Prod.mk.inj hb
      -- the closing order copies the quantity of the opening order, while the budget moves its lot
      have hlot : o.quantity = funds.lot :=
        hs.lots o.leg (leg_mem_ledgerLegs (p := p) (by simp [hholds.ledger])
          (by simp [hholds.orders]))
      refine hs.ordered hmoved.symm ?_ ?_
      · rw [hholds.ledger, ledgerLegs_concat, ledgerLegs_concat, legs_closedAt hholds.orders, hlot,
          List.append_assoc]
      · rw [hcalls, refusedLegs_concat]
        exact List.append_nil _

theorem Reconciled.opens (hs : Reconciled funds s)
    (h : Opens (fixedBudget Rat).recording side candle s r t) : Reconciled funds t := by
  cases h with
  | @refused f b hsettled hb =>
      obtain ⟨hb, hcalls⟩ := Budget.recording_bookOpen hb
      obtain ⟨hdry, hmoved⟩ := Prod.mk.inj hb
      have hlacks := Balances.lacksFunds_of_lotUnlessDry hdry
      refine hs.refused hmoved.symm rfl ?_
      rw [hcalls, refusedLegs_concat, Budget.Call.lacksFunds, Budget.Call.reply, if_pos hlacks]
      rfl
  | @done quantity b hsettled hb =>
      obtain ⟨hb, hcalls⟩ := Budget.recording_bookOpen hb
      obtain ⟨hgranted, hmoved⟩ := Prod.mk.inj hb
      have hquantity : quantity = funds.lot := by
        rw [Balances.lot_of_lotUnlessDry hgranted, Balances.trade_lot, hs.reconciles.lot]
      refine hs.ordered hmoved.symm ?_ ?_
      · rw [ledgerLegs_concat, hquantity]
        rfl
      · rw [hcalls, refusedLegs_concat]
        exact List.append_nil _

end Steps

section Profits

variable {p : Position Rat} {ledger : List (Position Rat)}

/-- A closed position has sold what it has bought, and its profit is what that has brought in. -/
theorem balanced_of_settled (h : p.Settled) :
    quantityOn .buy p.legs = quantityOn .sell p.legs ∧
      p.profit = valueOn .sell p.legs - valueOn .buy p.legs := by
  have hclosed : p.status = .closed := by
    cases hstatus : p.status with
    | closed => rfl
    | opened => simpa [Position.isOpen, hstatus] using h.isClosed
  obtain ⟨o, o', horders, hside, -, hside', hquantity, -⟩ := h.orders
  have hlegs : p.legs = [⟨p.side, o.quantity, o.price⟩,
      ⟨p.side.opposite, o.quantity, o'.price⟩] := by
    simp [Position.legs, horders, Order.leg, hside, hside', hquantity]
  rw [hlegs]
  cases hcase : p.side with
  | buy =>
      constructor
      · simp [Side.opposite]
      · simp [Position.profit, hclosed, horders, hcase, hquantity, Side.opposite, mul_comm]
  | sell =>
      constructor
      · simp [Side.opposite]
      · simp [Position.profit, hclosed, horders, hcase, hquantity, Side.opposite, mul_comm]

theorem balanced_of_all_settled (h : ∀ p ∈ ledger, p.Settled) :
    quantityOn .buy (ledgerLegs ledger) = quantityOn .sell (ledgerLegs ledger) ∧
      totalProfit ledger =
        valueOn .sell (ledgerLegs ledger) - valueOn .buy (ledgerLegs ledger) := by
  induction ledger with
  | nil => simp [ledgerLegs, totalProfit, Scalar.sum_rat]
  | cons p ledger ih =>
      obtain ⟨hquantity, hprofit⟩ := balanced_of_settled (h p List.mem_cons_self)
      obtain ⟨ihquantity, ihprofit⟩ := ih fun q hq => h q (List.mem_cons_of_mem p hq)
      have hlegs : ledgerLegs (p :: ledger) = p.legs ++ ledgerLegs ledger := rfl
      have htotal : totalProfit (p :: ledger) = p.profit + totalProfit ledger := by
        simp only [totalProfit, List.map_cons, Scalar.sum_rat, List.sum_cons]
      rw [hlegs, htotal]
      simp only [quantityOn_append, valueOn_append]
      constructor <;> linarith

end Profits

theorem settled_of_none_open {ledger : List (Position α)} (horder : InOrder ledger)
    (hclosed : ∀ p ∈ ledger, p.isOpen = false) : ∀ p ∈ ledger, p.Settled := by
  rcases horder.settled_or_holds with hall | ⟨settled, p, o, hs⟩
  · exact hall
  · have hp := hclosed p (by simp [hs.ledger])
    rw [hs.isOpen] at hp
    cases hp

/-- After any run with a fixed budget, the balances are the initial funds moved by every order of
the ledger and by every call that was refused for lack of funds, and every order is for one lot.
If no call was refused and nothing is open, the base coin is back where it was and the alt coin
has gained the profit of the ledger. -/
theorem balances_reconcile_with_ledger (rule : Rule Rat ρ) (funds : Balances Rat) (r : ρ)
    (bars : List (Candle Rat)) :
    let s := (handleAll rule (fixedBudget Rat) bars (.start funds, r)).1
    let ordered := ledgerLegs s.ledger
    let refused := refusedLegs funds.lot (calls rule (fixedBudget Rat) bars (.start funds, r))
    s.budget.base = funds.base + (quantityOn .buy ordered - quantityOn .sell ordered) +
        (quantityOn .buy refused - quantityOn .sell refused) ∧
      s.budget.alt = funds.alt - (valueOn .buy ordered - valueOn .sell ordered) -
        (valueOn .buy refused - valueOn .sell refused) ∧
      (∀ p ∈ s.ledger, ∀ o ∈ p.orders, o.quantity = funds.lot) ∧
      (refused = [] → (∀ p ∈ s.ledger, p.isOpen = false) →
        s.budget.base = funds.base ∧ s.budget.alt - funds.alt = s.profit) := by
  intro s ordered refused
  have horder : InOrder s.ledger :=
    inOrder_handleAll rule (fixedBudget Rat) bars (.resting fun _ hp => nomatch hp)
  -- the invariant speaks of the recorded run, the statement of the bare one
  have hrecorded : Reconciled funds
      (handleAll rule (fixedBudget Rat).recording bars (unasked (.start funds), r)).1 :=
    handleAll_preserves rule Reconciled.closes Reconciled.opens bars
      (.resting fun _ hp => nomatch hp) ⟨.start funds, fun _ hl => nomatch hl⟩
  have hview : s =
      (handleAll rule (fixedBudget Rat).recording bars (unasked (.start funds), r)).1.view
        Prod.fst :=
    congrArg Prod.fst (handleAll_recording rule (fixedBudget Rat) bars (.start funds, r))
  have hreconciles : Reconciles funds s.budget (ordered ++ refused) := by
    have hstate := hrecorded.reconciles
    simp only [ordered, refused, hview]
    exact hstate
  obtain ⟨-, hbase, halt⟩ := hreconciles
  simp only [quantityOn_append] at hbase
  simp only [valueOn_append] at halt
  refine ⟨by linarith, by linarith, fun p hp o ho => ?_, fun hnone hclosed => ?_⟩
  · rw [hview] at hp
    exact hrecorded.lots o.leg (leg_mem_ledgerLegs hp ho)
  · obtain ⟨hquantity, hprofit⟩ := balanced_of_all_settled (settled_of_none_open horder hclosed)
    rw [hnone] at hbase halt
    simp only [quantityOn_nil] at hbase
    simp only [valueOn_nil] at halt
    have hledger : s.profit = valueOn .sell ordered - valueOn .buy ordered := hprofit
    constructor <;> linarith

/-- One lot bought at a hundred and sold at a hundred and ten. -/
theorem round_trip_reconciled :
    let bar (price : Rat) : Candle Rat := { Candle.blank with closePrice := price }
    let begun : Simulated Rat (Balances Rat) × List Signal :=
      (.start ⟨10, 1000, 1⟩, [.advice .buy .openPosition, .advice .buy .closePosition])
    let s := (handleAll (.reciting Rat) (fixedBudget Rat) [bar 100, bar 110] begun).1
    refusedLegs 1 (calls (.reciting Rat) (fixedBudget Rat) [bar 100, bar 110] begun) = [] ∧
      (∀ p ∈ s.ledger, p.isOpen = false) ∧
      (s.budget.base = 10 ∧ s.budget.alt - 1000 = s.profit) ∧ s.profit = 10 := by
  intro bar begun s
  have hnone :
      refusedLegs 1 (calls (.reciting Rat) (fixedBudget Rat) [bar 100, bar 110] begun) = [] := by
    decide +kernel
  have hclosed : ∀ p ∈ s.ledger, p.isOpen = false := by decide +kernel
  have hreconciled := balances_reconcile_with_ledger (.reciting Rat) ⟨10, 1000, 1⟩ begun.2
    [bar 100, bar 110]
  exact ⟨hnone, hclosed, hreconciled.2.2.2 hnone hclosed, by decide +kernel⟩

end Simulated

end Crossover

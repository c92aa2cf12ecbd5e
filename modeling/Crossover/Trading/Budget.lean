import Crossover.Trading.Position

/-!
# Budgets

A budget is the capital granted to a session, in a base coin and an alt coin. It is asked before
a position is opened or closed, and answers with a quantity or refuses. The fixed budget trades
one lot per position: it moves the balances first and looks at them afterwards, so that a
refused call still leaves them moved, and it refuses when either coin has run dry. Closing a
closed position is refused before anything moves.
-/

namespace Crossover

structure Budget (α β : Type) where
  bookOpen : β → Side → Candle α → Except (Failure α) α × β
  bookClose : β → Side → Status → Candle α → Except (Failure α) α × β

structure Balances (α : Type) where
  base : α
  alt : α
  lot : α

namespace Balances

variable {α : Type} [Scalar α]

/-- Balances at or below these are dry. -/
def leastBase : α := Scalar.ofCount 1 / Scalar.ofCount 1000

def leastAlt : α := Scalar.ofCount 1

def isDry (b : Balances α) : Bool :=
  Scalar.atMost b.base leastBase || Scalar.atMost b.alt leastAlt

def sellLot (b : Balances α) (price : α) : Balances α :=
  { b with base := b.base - b.lot, alt := b.alt + b.lot * price }

def buyLot (b : Balances α) (price : α) : Balances α :=
  { b with base := b.base + b.lot, alt := b.alt - b.lot * price }

def trade (b : Balances α) (side : Side) (price : α) : Balances α :=
  match side with
  | .sell => b.sellLot price
  | .buy => b.buyLot price

@[simp] theorem trade_lot (b : Balances α) (side : Side) (price : α) :
    (b.trade side price).lot = b.lot := by
  cases side <;> rfl

def lotUnlessDry (b : Balances α) : Except (Failure α) α :=
  if b.isDry then .error (.ofFault (.insufficientFunds b.base b.alt)) else .ok b.lot

end Balances

def fixedBudget (α : Type) [Scalar α] : Budget α (Balances α) where
  bookOpen b side candle :=
    let b := b.trade side candle.closePrice
    (b.lotUnlessDry, b)
  bookClose b side status candle :=
    match status with
    | .closed => (.error (.ofFault .alreadyClosed), b)
    | .opened =>
      let b := b.trade side.opposite candle.closePrice
      (b.lotUnlessDry, b)

def Balances.text (b : Balances Float) : String :=
  let f := NumberNotation.fixed 6
  s!"[lot: {f b.lot}, base: {f b.base}, alt: {f b.alt}]"

end Crossover

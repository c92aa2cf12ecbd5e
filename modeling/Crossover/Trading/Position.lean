import Crossover.Market.Candle
import Crossover.Trading.Failure

/-!
# Orders and positions

A position holds its orders in the order they were filled: the one that opened it and, once it
is closed, the one that closed it. The closing order takes the opposite side and the quantity of
the opening order, and exists only while there is exactly one order. A profit is booked only by
a closed position with exactly two orders.
-/

namespace Crossover

inductive Status
  | opened
  | closed
deriving DecidableEq, Repr

inductive OrderKind
  | market
deriving DecidableEq, Repr

structure Order (α : Type) where
  id : String
  symbolId : String
  positionId : String
  creationTime : Instant
  price : α
  quantity : α
  status : String
  kind : OrderKind
  side : Side

structure Position (α : Type) where
  id : String
  symbolId : String
  side : Side
  status : Status
  creationTime : Instant
  user : String
  symbol : String
  orders : List (Order α)

structure NewPosition where
  symbolId : String
  side : Side
deriving DecidableEq, Repr

structure NewOrder (α : Type) where
  positionId : String
  quantity : α
  side : Side

namespace Position

variable {α : Type}

def isOpen (p : Position α) : Bool :=
  p.status == .opened

def closingOrder (p : Position α) : Except (Fault α) (Order α) :=
  match p.orders with
  | [opening] => .ok { opening with side := p.side.opposite }
  | orders => .error (.orderCount 1 orders.length)

def close (p : Position α) (order : Order α) : Position α :=
  { p with status := .closed, orders := p.orders ++ [order] }

variable [Scalar α]

def profit (p : Position α) : α :=
  match p.status, p.orders with
  | .closed, [opening, closing] =>
    let opened := opening.price * opening.quantity
    let closed := closing.price * closing.quantity
    match p.side with
    | .buy => closed - opened
    | .sell => opened - closed
  | _, _ => Scalar.zero

end Position

def totalProfit {α : Type} [Scalar α] (positions : List (Position α)) : α :=
  Scalar.sum (positions.map Position.profit)

end Crossover

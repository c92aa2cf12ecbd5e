import Crossover.Market.Rule
import Crossover.Trading.Budget

/-!
# The simulated trader

Fills every signal at the close of the bar and keeps the ledger of positions in memory. Opening
while a position is open closes that one first; closing with nothing open is skipped. The budget
is asked before the ledger changes, so a refusal leaves the ledger as it was. A recoverable
failure is noted and the step counts as done; any other failure is the result of the step.

Identifiers number the ledger: position `i` is `P` followed by `i`, and its order `j` adds a
point, `O` and `j`.
-/

namespace Crossover

structure Simulated (α β : Type) where
  budget : β
  /-- All positions, oldest first. -/
  ledger : List (Position α)

namespace Simulated

/-- What the trader reports. Budgets are reported as they are at that moment. -/
inductive Note (α β : Type)
  | remark (remark : Remark α)
  | forceClosing (budget : β)
  | opened (position : String) (side : Side) (price quantity : α) (budget : β)
  | closed (position : String) (side : Side) (price profit : α) (budget : β)
  | nothingOpen
  | skipped (side : Side) (action : Action) (price : α) (failure : Failure α)

/-- The state after an attempt, what was reported, and how it ended. -/
structure Turn (α β : Type) where
  state : Simulated α β
  notes : List (Note α β)
  result : Except (Failure α) Unit

def user : String := "backtest"

def filled : String := "filled"

def positionId (index : Nat) : String := "P" ++ toString index

def orderId (position : String) (index : Nat) : String := position ++ ".O" ++ toString index

variable {α β : Type}

def start (budget : β) : Simulated α β := ⟨budget, []⟩

/-- The last position of the ledger, if it is open. -/
def current? (s : Simulated α β) : Option (Position α) :=
  s.ledger.getLast?.filter Position.isOpen

def openingOrder (position : String) (side : Side) (quantity : α) (candle : Candle α) :
    Order α where
  id := orderId position 0
  symbolId := candle.symbolId
  positionId := position
  creationTime := candle.closeTime
  price := candle.closePrice
  quantity := quantity
  status := filled
  kind := .market
  side := side

def newPosition (index : Nat) (side : Side) (quantity : α) (candle : Candle α) :
    Position α where
  id := positionId index
  symbolId := candle.symbolId
  side := side
  status := .opened
  creationTime := candle.closeTime
  user := user
  symbol := candle.symbol
  orders := [openingOrder (positionId index) side quantity candle]

/-- The closing order of a position as filled at the close of a bar. -/
def fillClosing (p : Position α) (order : Order α) (candle : Candle α) : Order α :=
  { order with
    id := orderId p.id p.orders.length
    creationTime := candle.closeTime
    price := candle.closePrice }

variable [Scalar α]

def close (budget : Budget α β) (candle : Candle α) (s : Simulated α β) : Turn α β :=
  match s.current? with
  | none => ⟨s, [.nothingOpen], .ok ()⟩
  | some p =>
    match budget.bookClose s.budget p.side p.status candle with
    | (.error f, b) => ⟨{ s with budget := b }, [], .error f⟩
    | (.ok _, b) =>
      match p.closingOrder with
      | .error f => ⟨{ s with budget := b }, [], .error (.ofFault f)⟩
      | .ok order =>
        let closed := p.close (fillClosing p order candle)
        ⟨⟨b, s.ledger.dropLast ++ [closed]⟩,
          [.closed closed.id closed.side candle.closePrice closed.profit b], .ok ()⟩

/-- Opens a position at the end of the ledger, whatever stands there. -/
def append (budget : Budget α β) (side : Side) (candle : Candle α) (s : Simulated α β) :
    Turn α β :=
  match budget.bookOpen s.budget side candle with
  | (.error f, b) => ⟨{ s with budget := b }, [], .error f⟩
  | (.ok quantity, b) =>
    let p := newPosition s.ledger.length side quantity candle
    ⟨⟨b, s.ledger ++ [p]⟩, [.opened p.id side candle.closePrice quantity b], .ok ()⟩

def openPosition (budget : Budget α β) (side : Side) (candle : Candle α) (s : Simulated α β) :
    Turn α β :=
  match s.current? with
  | none => append budget side candle s
  | some _ =>
    let closing := close budget candle s
    let notes := .forceClosing s.budget :: closing.notes
    match closing.result with
    | .error f => ⟨closing.state, notes, .error f⟩
    | .ok () =>
      let opening := append budget side candle closing.state
      { opening with notes := notes ++ opening.notes }

def act (budget : Budget α β) (side : Side) (action : Action) (candle : Candle α)
    (s : Simulated α β) : Turn α β :=
  let turn := match action with
    | .openPosition => openPosition budget side candle s
    | .closePosition => close budget candle s
  match turn.result with
  | .ok () => turn
  | .error f =>
    if f.isRecoverable then
      ⟨turn.state, turn.notes ++ [.skipped side action candle.closePrice f], .ok ()⟩
    else turn

def follow (budget : Budget α β) (signal : Signal) (candle : Candle α) (s : Simulated α β) :
    Turn α β :=
  match signal with
  | .hold => ⟨s, [], .ok ()⟩
  | .advice side action => act budget side action candle s

def handle {ρ : Type} (rule : Rule α ρ) (budget : Budget α β) (candle : Candle α)
    (s : Simulated α β × ρ) : Turn α β × ρ :=
  let (signal, r) := rule.advise s.2 candle
  let turn := follow budget signal candle s.1
  let remarks := (rule.remark r candle signal).toList.map Note.remark
  ({ turn with notes := remarks ++ turn.notes }, r)

def profit (s : Simulated α β) : α :=
  totalProfit s.ledger

end Simulated

end Crossover

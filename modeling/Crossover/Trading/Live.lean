import Crossover.Market.Rule
import Crossover.Trading.Budget
import Crossover.Trading.Exchange

/-!
# The live trader

Follows signals on an exchange. At most one position is open at any time: the trader keeps a
copy of the one it opened, and after a restart it looks up the newest position of the exchange
when asked to close. Opening with a position at hand closes that one first. The copy is dropped
only once the exchange has confirmed the close, and replaced only by a position the exchange has
created or returned.
-/

namespace Crossover

structure Live (α β κ : Type) where
  budget : β
  exchange : κ
  current : Option (Position α)

namespace Live

inductive Note (α β : Type)
  | remark (remark : Remark α)
  | forceClosing (position : String) (side : Side) (budget : β)
  | nothingOpen
  | alreadyClosed (position : String)
  | updated (position : String) (side : Side) (action : Action) (price : α) (budget : β)
  | skipped (side : Side) (action : Action) (price : α) (failure : Failure α)
  | failed (side : Side) (action : Action) (price : α) (failure : Failure α)

/-- The state after an attempt, what was reported, and how it ended. -/
structure Turn (α β κ ω : Type) where
  state : Live α β κ
  notes : List (Note α β)
  result : Except (Failure α) ω

variable {α β κ : Type}

def start (budget : β) (exchange : κ) : Live α β κ := ⟨budget, exchange, none⟩

/-- Looks up the newest position and keeps it if it is open. -/
def recover (exchange : Exchange α κ) (s : Live α β κ) : Except (Failure α) (Live α β κ) × κ :=
  let (reply, k) := exchange.newest s.exchange
  (reply.map fun newest => { s with exchange := k, current := newest.filter Position.isOpen }, k)

def closeTracked (budget : Budget α β) (exchange : Exchange α κ) (candle : Candle α)
    (p : Position α) (s : Live α β κ) : Turn α β κ (Option (Position α)) :=
  match budget.bookClose s.budget p.side p.status candle with
  | (.error f, b) => ⟨{ s with budget := b }, [], .error f⟩
  | (.ok _, b) =>
    let s := { s with budget := b }
    match p.closingOrder with
    | .error f => ⟨s, [], .error (.ofFault f)⟩
    | .ok closing =>
      match exchange.order s.exchange ⟨p.id, closing.quantity, closing.side⟩ with
      | (.error f, k) => ⟨{ s with exchange := k }, [], .error f⟩
      | (.ok _, k) =>
        match exchange.close k p.id with
        | (.error f, k) => ⟨{ s with exchange := k }, [], .error f⟩
        | (.ok closed, k) => ⟨{ s with exchange := k, current := none }, [], .ok closed⟩

/-- Closes the position at hand, if there is one and it is open. -/
def closeCurrent (budget : Budget α β) (exchange : Exchange α κ) (candle : Candle α)
    (s : Live α β κ) : Turn α β κ (Option (Position α)) :=
  match s.current with
  | none => ⟨s, [.nothingOpen], .ok none⟩
  | some p =>
    if p.isOpen then closeTracked budget exchange candle p s
    else ⟨{ s with current := none }, [.alreadyClosed p.id], .ok none⟩

/-- Closes the position at hand, or the one the exchange still has open. -/
def close (budget : Budget α β) (exchange : Exchange α κ) (candle : Candle α)
    (s : Live α β κ) : Turn α β κ (Option (Position α)) :=
  match s.current with
  | some _ => closeCurrent budget exchange candle s
  | none =>
    match recover exchange s with
    | (.error f, k) => ⟨{ s with exchange := k }, [], .error f⟩
    | (.ok s, _) => closeCurrent budget exchange candle s

def create (budget : Budget α β) (exchange : Exchange α κ) (side : Side) (candle : Candle α)
    (s : Live α β κ) : Turn α β κ (Option (Position α)) :=
  match budget.bookOpen s.budget side candle with
  | (.error f, b) => ⟨{ s with budget := b }, [], .error f⟩
  | (.ok quantity, b) =>
    match exchange.create s.exchange ⟨candle.symbolId, side⟩ quantity with
    | (.error f, k) => ⟨{ s with budget := b, exchange := k }, [], .error f⟩
    | (.ok p, k) => ⟨⟨b, k, some p⟩, [], .ok (some p)⟩

def openPosition (budget : Budget α β) (exchange : Exchange α κ) (side : Side)
    (candle : Candle α) (s : Live α β κ) : Turn α β κ (Option (Position α)) :=
  match s.current with
  | none => create budget exchange side candle s
  | some p =>
    let closing := close budget exchange candle s
    let notes := .forceClosing p.id p.side s.budget :: closing.notes
    match closing.result with
    | .error f => ⟨closing.state, notes, .error f⟩
    | .ok _ =>
      let opening := create budget exchange side candle closing.state
      { opening with notes := notes ++ opening.notes }

def act (budget : Budget α β) (exchange : Exchange α κ) (side : Side) (action : Action)
    (candle : Candle α) (s : Live α β κ) : Turn α β κ Unit :=
  let price := candle.closePrice
  let turn := match action with
    | .openPosition => openPosition budget exchange side candle s
    | .closePosition => close budget exchange candle s
  match turn.result with
  | .ok none => ⟨turn.state, turn.notes, .ok ()⟩
  | .ok (some p) =>
    ⟨turn.state, turn.notes ++ [.updated p.id side action price turn.state.budget], .ok ()⟩
  | .error f =>
    if f.isRecoverable then
      ⟨turn.state, turn.notes ++ [.skipped side action price f], .ok ()⟩
    else ⟨turn.state, turn.notes ++ [.failed side action price f], .error f⟩

def follow (budget : Budget α β) (exchange : Exchange α κ) (signal : Signal)
    (candle : Candle α) (s : Live α β κ) : Turn α β κ Unit :=
  match signal with
  | .hold => ⟨s, [], .ok ()⟩
  | .advice side action => act budget exchange side action candle s

def handle {ρ : Type} (rule : Rule α ρ) (budget : Budget α β) (exchange : Exchange α κ)
    (candle : Candle α) (s : Live α β κ × ρ) : Turn α β κ Unit × ρ :=
  let (signal, r) := rule.advise s.2 candle
  let turn := follow budget exchange signal candle s.1
  let remarks := (rule.remark r candle signal).toList.map Note.remark
  ({ turn with notes := remarks ++ turn.notes }, r)

def profit [Scalar α] (exchange : Exchange α κ) (s : Live α β κ) :
    Except (Failure α) α × κ :=
  let (reply, k) := exchange.list s.exchange
  (reply.map totalProfit, k)

end Live

end Crossover

import Crossover.Log.Event
import Crossover.Session.Work
import Crossover.Time.Stamp

/-!
# What traders log

The events of the simulated and the live trader: one when they start to trade, one for each note,
and one or two when they leave without a failure. Asking a trader for its profit is logged too.
Budgets are logged by their text.
-/

namespace Crossover

open Log (Datum Event)

def Remark.event (r : Remark Float) : Event where
  level := .debug
  origin := "machina::strategies::moving_average"
  message := "rule : signal"
  data := [("side", .text r.side.text), ("action", .text r.action.text), ("fast", .real r.fast),
    ("slow", .real r.slow), ("close", .real r.close)]

variable {β ρ : Type}

namespace Simulated

def origin : String := "machina::traders::backtest"

def info (message : String) (data : List (String × Datum)) : Event := ⟨.info, origin, message, data⟩

def Note.event (text : β → String) : Note Float β → Event
  | .remark r => r.event
  | .forceClosing budget =>
    info "trader : open : force closing previous position" [("budget", .text (text budget))]
  | .opened position side price quantity budget =>
    info "trader : opened" [("position", .text position), ("side", .text side.text),
      ("price", .real price), ("quantity", .real quantity), ("budget", .text (text budget))]
  | .closed position side price profit budget =>
    info "trader : closed" [("position", .text position), ("side", .text side.text),
      ("price", .real price), ("profit", .real profit), ("budget", .text (text budget))]
  | .nothingOpen => info "trader : close : no open position, skipping this iteration" []
  | .skipped side action price failure =>
    ⟨.warn, origin, "trader : skipping iteration",
      [("side", .text side.text), ("action", .text action.text), ("price", .real price),
        ("error", .text failure.message)]⟩

def started (budget rule : String) : Event :=
  info "trader : starting backtest" [("budget", .text budget), ("rule", .text rule)]

def leaving (idle positions : Nat) : Presence Float → List Event
  | .waiting _ => []
  | .left (.failed _) => []
  | .left .idle =>
    [info "trader : no more candles" [("idle_ms", .count idle)],
      info "trader : gracefully shutting down trader" [("positions", .count positions)]]
  | .left _ => [info "trader : gracefully shutting down trader" [("positions", .count positions)]]

def events (text : β → String) (budget : β) (rule : String) (idle : Nat)
    (s : Attendance Float (Working Float β ρ)) : List Event :=
  started (text budget) rule ::
    s.trader.notes.toList.map (Note.event text) ++
    leaving idle s.trader.trader.ledger.length s.presence

/-- The event for position number `index` if it has two orders. -/
def operation? (index : Nat) (p : Position Float) : Option Event :=
  match p.orders with
  | [opening, closing] =>
    some (info "trader : position" [("operation", .count index), ("side", .text p.side.text),
      ("opened_at", .text (Stamp.diary opening.creationTime)),
      ("closed_at", .text (Stamp.diary closing.creationTime)),
      ("open", .real (opening.price * opening.quantity)),
      ("close", .real (closing.price * closing.quantity)), ("profit", .real p.profit)])
  | _ => none

def profitEvents (s : Simulated Float β) : List Event :=
  s.ledger.zipIdx.filterMap (fun (p, index) => operation? index p) ++
    [info "trader : total profit" [("total", .real s.profit)]]

end Simulated

namespace Live

def origin : String := "machina::traders::api"

def info (message : String) (data : List (String × Datum)) : Event := ⟨.info, origin, message, data⟩

def trouble (side : Side) (action : Action) (price : Float) (failure : Failure Float) :
    List (String × Datum) :=
  [("side", .text side.text), ("action", .text action.text), ("price", .real price),
    ("error", .text failure.message)]

def Note.event (text : β → String) : Note Float β → Event
  | .remark r => r.event
  | .forceClosing position side budget =>
    info "trader : open : force closing previous position" [("position", .text position),
      ("side", .text side.text), ("budget", .text (text budget))]
  | .nothingOpen =>
    info "trader : close : unable to find an opened position, skipping this iteration" []
  | .alreadyClosed position =>
    info "trader : close : position already closed, skipping this iteration"
      [("position", .text position)]
  | .updated position side action price budget =>
    info "trader : position updated" [("position", .text position), ("side", .text side.text),
      ("action", .text action.text), ("price", .real price), ("budget", .text (text budget))]
  | .skipped side action price failure =>
    ⟨.warn, origin, "trader : skipping iteration", trouble side action price failure⟩
  | .failed side action price failure =>
    ⟨.error, origin, "trader : unable to update position", trouble side action price failure⟩

def started (budget rule : String) : Event :=
  info "trader : starting to trade" [("budget", .text budget), ("rule", .text rule)]

def leaving : Presence Float → List Event
  | .waiting _ => []
  | .left (.failed _) => []
  | .left _ => [info "trader : gracefully shutting down trader" []]

def events {κ : Type} (text : β → String) (budget : β) (rule : String)
    (s : Attendance Float (Working Float β κ ρ)) : List Event :=
  started (text budget) rule :: s.trader.notes.toList.map (Note.event text) ++
    leaving s.presence

/-- A profit that cannot be looked up is logged and counts as zero. -/
def profitEvents : Except (Failure Float) Float → List Event
  | .ok _ => []
  | .error f =>
    [⟨.error, origin, "trader : unable to fetch positions from api",
      [("error", .text f.message)]⟩]

def profitOrZero (r : Except (Failure Float) Float) : Float :=
  r.toOption.getD 0.0

end Live

end Crossover

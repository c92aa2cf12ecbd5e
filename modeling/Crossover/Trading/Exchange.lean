import Crossover.Trading.Position

/-!
# Exchanges

An exchange executes orders and remembers positions; every call may fail, with or without effect.
A stored exchange is one that keeps its positions oldest first and never fails by itself. Each
order it fills takes the next price of a cycle; positions are named by the order of their
creation, and their orders by the position and a count.
-/

namespace Crossover

structure Exchange (α κ : Type) where
  /-- All positions, newest first. -/
  list : κ → Except (Failure α) (List (Position α)) × κ
  /-- The newest position, open or not. -/
  newest : κ → Except (Failure α) (Option (Position α)) × κ
  /-- Creates a position together with its opening order. -/
  create : κ → NewPosition → α → Except (Failure α) (Position α) × κ
  order : κ → NewOrder α → Except (Failure α) (Order α) × κ
  close : κ → String → Except (Failure α) (Option (Position α)) × κ

structure Stored (α : Type) where
  /-- All positions, oldest first. -/
  positions : List (Position α)
  created : Nat
  filled : Nat
  /-- The price of the `n`-th fill. -/
  price : Nat → α

namespace Stored

def user : String := "bot"

def symbol : String := "SYM"

def filledStatus : String := "FILLED"

variable {α : Type}

def ofPositions (positions : List (Position α)) (price : Nat → α) : Stored α :=
  ⟨positions, 0, 0, price⟩

def fill (s : Stored α) (p : Position α) (quantity : α) (side : Side) : Order α where
  id := s!"{p.id}-o{p.orders.length + 1}"
  symbolId := p.symbolId
  positionId := p.id
  creationTime := .epoch
  price := s.price s.filled
  quantity := quantity
  status := filledStatus
  kind := .market
  side := side

def updateFirst (id : String) (f : Position α → Position α) :
    List (Position α) → List (Position α)
  | [] => []
  | p :: rest => if p.id = id then f p :: rest else p :: updateFirst id f rest

def unknown : Failure α := .ofFault (.unexpectedStatus 404)

def blankPosition (id : String) (new : NewPosition) : Position α where
  id := id
  symbolId := new.symbolId
  side := new.side
  status := .opened
  creationTime := .epoch
  user := user
  symbol := symbol
  orders := []

def create (s : Stored α) (new : NewPosition) (quantity : α) :
    Except (Failure α) (Position α) × Stored α :=
  let bare := blankPosition s!"n{s.created + 1}" new
  let p := { bare with orders := [s.fill bare quantity new.side] }
  (.ok p,
    { s with
      positions := s.positions ++ [p]
      created := s.created + 1
      filled := s.filled + 1 })

def order (s : Stored α) (new : NewOrder α) : Except (Failure α) (Order α) × Stored α :=
  match s.positions.find? (·.id = new.positionId) with
  | none => (.error unknown, s)
  | some p =>
    let o := s.fill p new.quantity new.side
    (.ok o,
      { s with
        positions := updateFirst p.id (fun p => { p with orders := p.orders ++ [o] }) s.positions
        filled := s.filled + 1 })

def close (s : Stored α) (id : String) :
    Except (Failure α) (Option (Position α)) × Stored α :=
  match s.positions.find? (·.id = id) with
  | none => (.error unknown, s)
  | some _ =>
    let positions := updateFirst id (fun p => { p with status := .closed }) s.positions
    (.ok positions.getLast?, { s with positions := positions })

end Stored

def storedExchange (α : Type) : Exchange α (Stored α) where
  list s := (.ok s.positions.reverse, s)
  newest s := (.ok s.positions.getLast?, s)
  create := Stored.create
  order := Stored.order
  close := Stored.close

end Crossover

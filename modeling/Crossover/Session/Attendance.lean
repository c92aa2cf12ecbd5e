import Crossover.Session.Task

/-!
# Attending to a line

A trader attends to a line: it handles every item it receives, at once, until it is told to
stop, the line ends, handling an item fails, or no item has come for the idle time, counted from
the item before or from the start.
-/

namespace Crossover

/-- Why a trader leaves the line. -/
inductive Leaving (α : Type)
  | stopped
  | closed
  | idle
  | failed (failure : Failure α)

inductive Presence (α : Type)
  | waiting (idleDue : Option Nat)
  | left (why : Leaving α)

structure Attendance (α σ : Type) where
  trader : σ
  presence : Presence α

namespace Attendance

variable {α γ σ : Type}

def dueAfter (idle : Option Nat) (now : Nat) : Option Nat :=
  idle.map (now + ·)

def begin (idle : Option Nat) (now : Nat) (trader : σ) : Attendance α σ :=
  ⟨trader, .waiting (dueAfter idle now)⟩

/-- Handles one item and waits for the next, unless handling fails. -/
def take (handle : γ → σ → σ × Except (Failure α) Unit) (idle : Option Nat) (item : γ)
    (now : Nat) (s : Attendance α σ) : Attendance α σ :=
  match handle item s.trader with
  | (trader, .ok ()) => ⟨trader, .waiting (dueAfter idle now)⟩
  | (trader, .error f) => ⟨trader, .left (.failed f)⟩

def leave (why : Leaving α) (s : Attendance α σ) : Attendance α σ :=
  { s with presence := .left why }

def branches (handle : γ → σ → σ × Except (Failure α) Unit) (idle : Option Nat)
    (s : Attendance α σ) : List (Branch γ (Attendance α σ)) :=
  match s.presence with
  | .left _ => []
  | .waiting due =>
    [.onReceive (fun item now => s.take handle idle item now) (fun _ => s.leave .closed),
      .onStop fun _ => s.leave .stopped] ++
    due.toList.map fun due => .onTime due fun _ => s.leave .idle

def ending (s : Attendance α σ) : Option (Ending α) :=
  match s.presence with
  | .waiting _ => none
  | .left (.failed f) => some (.returned (.error f))
  | .left _ => some (.returned (.ok ()))

def task (handle : γ → σ → σ × Except (Failure α) Unit) (idle : Option Nat) :
    Task α γ (Attendance α σ) :=
  .plain (branches handle idle) ending

end Attendance

end Crossover

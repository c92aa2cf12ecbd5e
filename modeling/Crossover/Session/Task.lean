import Crossover.Trading.Failure

/-!
# Tasks

A task runs until it has to wait and then lists the branches it can go on with: a stop, a free
slot for an item it wants to hand over, an item or the end of the items, or a time. Exactly one
branch is taken, and everything up to the next wait happens at once, at the time the branch is
taken. Time is counted in milliseconds from the start. A task that has ended lists no branch,
and its end of the line is gone.
-/

namespace Crossover

inductive Branch (γ σ : Type)
  | onStop (next : Nat → σ)
  | onSend (item : γ) (sent refused : Nat → σ)
  | onReceive (got : γ → Nat → σ) (ended : Nat → σ)
  | onTime (due : Nat) (next : Nat → σ)

inductive Ending (α : Type)
  | returned (result : Except (Failure α) Unit)
  | panicked

structure Task (α γ σ : Type) where
  branches : σ → List (Branch γ σ)
  /-- Set once the task has ended. -/
  ending : σ → Option (Ending α)
  /-- Whether the task still holds its end of the line. -/
  holdsLine : σ → Bool
  /-- Whether the task has told the task at the other end to stop. -/
  stopsOther : σ → Bool

namespace Task

variable {α γ σ : Type}

/-- A task that lets go of the line exactly when it ends, and stops nobody. -/
def plain (branches : σ → List (Branch γ σ)) (ending : σ → Option (Ending α)) : Task α γ σ where
  branches := branches
  ending := ending
  holdsLine s := (ending s).isNone
  stopsOther _ := false

def hasEnded (t : Task α γ σ) (s : σ) : Bool :=
  (t.ending s).isSome

def dues (t : Task α γ σ) (s : σ) : List Nat :=
  (t.branches s).filterMap fun
    | .onTime due _ => some due
    | _ => none

end Task

end Crossover

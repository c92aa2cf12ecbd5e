import Crossover.Session.Task

/-!
# Lines

A line joins a sender and a receiver by a single slot. Its moves are all the ways in which one
of the two can go on: an interleaving is a choice of one move after another. A send needs an
empty slot, or fails once the receiver is gone; a receive takes the item in the slot, or learns
of the end once the slot is empty and the sender gone. Time passes only when there is no move,
and then up to the next time somebody waits for. `runUntil` takes the first move each time, and
so follows one of the interleavings.
-/

namespace Crossover

structure Line (γ σ τ : Type) where
  now : Nat
  slot : Option γ
  sender : σ
  receiver : τ

namespace Line

variable {α γ σ τ : Type}

def start (sender : σ) (receiver : τ) : Line γ σ τ := ⟨0, none, sender, receiver⟩

def senderMove? (receiverHolds stop : Bool) (w : Line γ σ τ) :
    Branch γ σ → Option (Line γ σ τ)
  | .onStop next => if stop then some { w with sender := next w.now } else none
  | .onSend item sent refused =>
    if !receiverHolds then some { w with sender := refused w.now }
    else if w.slot.isNone then some { w with slot := some item, sender := sent w.now }
    else none
  | .onReceive _ _ => none
  | .onTime due next => if due ≤ w.now then some { w with sender := next w.now } else none

def receiverMove? (senderHolds stop : Bool) (w : Line γ σ τ) :
    Branch γ τ → Option (Line γ σ τ)
  | .onStop next => if stop then some { w with receiver := next w.now } else none
  | .onSend _ _ _ => none
  | .onReceive got ended =>
    match w.slot with
    | some item => some { w with slot := none, receiver := got item w.now }
    | none => if senderHolds then none else some { w with receiver := ended w.now }
  | .onTime due next => if due ≤ w.now then some { w with receiver := next w.now } else none

variable (S : Task α γ σ) (T : Task α γ τ)

def senderMoves (stop : Bool) (w : Line γ σ τ) : List (Line γ σ τ) :=
  (S.branches w.sender).filterMap (w.senderMove? (T.holdsLine w.receiver) stop)

def receiverMoves (stop : Bool) (w : Line γ σ τ) : List (Line γ σ τ) :=
  (T.branches w.receiver).filterMap (w.receiverMove? (S.holdsLine w.sender) stop)

/-- All moves, where each task is stopped by the other one. -/
def moves (w : Line γ σ τ) : List (Line γ σ τ) :=
  receiverMoves S T (S.stopsOther w.sender) w ++ senderMoves S T (T.stopsOther w.receiver) w

def nextDue? (w : Line γ σ τ) : Option Nat :=
  ((S.dues w.sender ++ T.dues w.receiver).filter (w.now < ·)).min?

/-- One move, or the passing of time when there is none, up to a horizon. -/
def step? (horizon : Option Nat) (w : Line γ σ τ) : Option (Line γ σ τ) :=
  match moves S T w with
  | w' :: _ => some w'
  | [] =>
    match nextDue? S T w with
    | none => none
    | some due =>
      if horizon.all (due ≤ ·) then some { w with now := due } else none

/-- Runs until it is over, for at most `fuel` steps, or until nothing more happens before the
horizon. -/
def runUntil (isOver : Line γ σ τ → Bool) (horizon : Option Nat) :
    Nat → Line γ σ τ → Line γ σ τ
  | 0, w => w
  | fuel + 1, w =>
    if isOver w then w
    else match step? S T horizon w with
      | none => w
      | some w' => runUntil isOver horizon fuel w'

/-- One line comes after another in some interleaving. -/
inductive Next : Line γ σ τ → Line γ σ τ → Prop
  | move {w w' : Line γ σ τ} : w' ∈ moves S T w → Next w w'
  | wait {w : Line γ σ τ} {due : Nat} : moves S T w = [] → nextDue? S T w = some due →
      Next w { w with now := due }

theorem next_of_step? {horizon : Option Nat} {w w' : Line γ σ τ}
    (h : step? S T horizon w = some w') : Next S T w w' := by
  unfold step? at h
  split at h
  · next first rest hm =>
    cases h
    exact .move (by rw [hm]; exact List.mem_cons_self)
  · next hm =>
    split at h
    · cases h
    · next due hd =>
      split at h
      · cases h
        exact .wait hm hd
      · cases h

end Line

end Crossover

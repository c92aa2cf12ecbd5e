import Crossover.Proofs.Session.Inevitable
import Crossover.Proofs.Session.Moves

/-!
# What the runner sees first

A task that has ended does not go on, and stays as it is while the runner waits for the other
one. So what the runner saw first is followed along a run: it had seen nothing before, and the
end of a task that it saw is the end of that task in every later state.
-/

namespace Crossover

variable {α γ ρ σ τ κ : Type}

namespace Task

/-- A task that has ended does not go on. -/
def Settles (t : Task α γ σ) : Prop :=
  ∀ s, t.hasEnded s = true → t.branches s = []

end Task

theorem Recorded.task_settles : (Recorded.task α).Settles := by
  intro s hended
  cases s with
  | handing => cases hended
  | waiting => cases hended
  | left => rfl

theorem Polled.task_settles (source : Source α κ) (p : Polling) :
    (Polled.task source p).Settles := by
  intro s hended
  cases hphase : s.phase with
  | left => simp [task, Task.plain, branches, hphase]
  | _ => simp [Task.hasEnded, task, Task.plain, ending, hphase] at hended

theorem Attendance.task_settles (handle : γ → σ → σ × Except (Failure α) Unit)
    (idle : Option Nat) : (Attendance.task handle idle).Settles := by
  intro s hended
  cases hpresence : s.presence with
  | waiting => simp [ending, hpresence] at hended
  | left => simp [task, Task.plain, branches, hpresence]

namespace Line

variable {S : Task α γ σ} {T : Task α γ τ} {stop : Bool} {l l' : Line γ σ τ}

theorem receiver_of_senderMoves (h : l' ∈ l.senderMoves S T stop) : l'.receiver = l.receiver := by
  obtain ⟨b, -, hmove⟩ := List.mem_filterMap.mp h
  cases b <;> grind [senderMove?]

theorem sender_of_receiverMoves (h : l' ∈ l.receiverMoves S T stop) : l'.sender = l.sender := by
  obtain ⟨b, -, hmove⟩ := List.mem_filterMap.mp h
  cases b <;> grind [receiverMove?]

theorem senderMoves_of_ended (hS : S.Settles) (h : S.hasEnded l.sender = true) :
    l.senderMoves S T stop = [] := by
  rw [senderMoves, hS _ h, List.filterMap_nil]

theorem receiverMoves_of_ended (hT : T.Settles) (h : T.hasEnded l.receiver = true) :
    l.receiverMoves S T stop = [] := by
  rw [receiverMoves, hT _ h, List.filterMap_nil]

end Line

namespace Session

variable {S : Task α γ σ} {T : Task α γ τ} {start w w' : Session γ σ τ}

def Sees (S : Task α γ σ) (T : Task α γ τ) (w : Session γ σ τ) : Ended → Prop
  | .signal => w.signalled = true
  | .feed => S.hasEnded w.line.sender = true
  | .trader => T.hasEnded w.line.receiver = true

def BothEnded (S : Task α γ σ) (T : Task α γ τ) (w : Session γ σ τ) : Prop :=
  S.hasEnded w.line.sender = true ∧ T.hasEnded w.line.receiver = true

/-- The runner takes one of its moves, and then the tasks rest; or else it watches as before. -/
theorem next_watch (h : Next S T w w') :
    w'.watch = w.watch ∨ w'.line = w.line ∧
      ((w.watch = .watching ∧ ∃ ended, Sees S T w ended ∧
          w' = { w with watch := .stopping ended }) ∨
        ∃ ended, w.watch = .stopping ended ∧ BothEnded S T w ∧
          w' = { w with watch := .finished ended }) := by
  cases h with
  | fire => exact .inl rfl
  | wait => exact .inl rfl
  | move hmove =>
      rcases moves_cases hmove with ⟨l, -, rfl⟩ | ⟨l, -, rfl⟩ | hrunner
      · exact .inl rfl
      · exact .inl rfl
      · rcases runnerMoves_cases hrunner with ⟨hw, ended, rfl, hsees⟩ | ⟨ended, hw, hS, hT, rfl⟩
        · refine .inr ⟨rfl, .inl ⟨hw, ended, ?_, rfl⟩⟩
          rcases hsees with ⟨rfl, h⟩ | ⟨rfl, h⟩ | ⟨rfl, h⟩
          · exact h
          · exact h
          · exact h
        · exact .inr ⟨rfl, .inr ⟨ended, hw, ⟨hS, hT⟩, rfl⟩⟩

theorem next_sender (hS : S.Settles) (hended : S.hasEnded w.line.sender = true)
    (h : Next S T w w') : w'.line.sender = w.line.sender := by
  cases h with
  | fire => rfl
  | wait => rfl
  | move hmove =>
      rcases moves_cases hmove with ⟨l, hl, rfl⟩ | ⟨l, hl, rfl⟩ | hrunner
      · rw [Line.senderMoves_of_ended hS hended] at hl
        exact absurd hl List.not_mem_nil
      · exact Line.sender_of_receiverMoves hl
      · rcases runnerMoves_cases hrunner with ⟨-, ended, rfl, -⟩ | ⟨ended, -, -, -, rfl⟩
        · rfl
        · rfl

theorem next_receiver (hT : T.Settles) (hended : T.hasEnded w.line.receiver = true)
    (h : Next S T w w') : w'.line.receiver = w.line.receiver := by
  cases h with
  | fire => rfl
  | wait => rfl
  | move hmove =>
      rcases moves_cases hmove with ⟨l, hl, rfl⟩ | ⟨l, hl, rfl⟩ | hrunner
      · exact Line.receiver_of_senderMoves hl
      · rw [Line.receiverMoves_of_ended hT hended] at hl
        exact absurd hl List.not_mem_nil
      · rcases runnerMoves_cases hrunner with ⟨-, ended, rfl, -⟩ | ⟨ended, -, -, -, rfl⟩
        · rfl
        · rfl

/-- A task whose end was seen is later as it was then. -/
theorem reaches_sender (hS : S.Settles) (hended : S.hasEnded w.line.sender = true)
    (h : Reaches S T w w') : w'.line.sender = w.line.sender := by
  induction h with
  | refl => rfl
  | tail _ hnext ih => rw [next_sender hS (ih ▸ hended) hnext, ih]

theorem reaches_receiver (hT : T.Settles) (hended : T.hasEnded w.line.receiver = true)
    (h : Reaches S T w w') : w'.line.receiver = w.line.receiver := by
  induction h with
  | refl => rfl
  | tail _ hnext ih => rw [next_receiver hT (ih ▸ hended) hnext, ih]

/-- On the way from the start to this state the runner, which had seen nothing before, saw this
first. A task that was seen to have ended was then as it is now. -/
def FirstSeen (S : Task α γ σ) (T : Task α γ τ) (start : Session γ σ τ) (ended : Ended)
    (w : Session γ σ τ) : Prop :=
  ∃ v, Reaches S T start v ∧ v.watch = .watching ∧ Sees S T v ended ∧
    Reaches S T { v with watch := .stopping ended } w ∧
    match ended with
    | .signal => True
    | .feed => w.line.sender = v.line.sender
    | .trader => w.line.receiver = v.line.receiver

theorem FirstSeen.of_sees {ended : Ended} (hS : S.Settles) (hT : T.Settles)
    (hreaches : Reaches S T start w) (hwatch : w.watch = .watching) (hsees : Sees S T w ended)
    (hlater : Reaches S T { w with watch := .stopping ended } w') :
    FirstSeen S T start ended w' := by
  refine ⟨w, hreaches, hwatch, hsees, hlater, ?_⟩
  cases ended with
  | signal => trivial
  | feed => exact reaches_sender (w := { w with watch := .stopping .feed }) hS hsees hlater
  | trader => exact reaches_receiver (w := { w with watch := .stopping .trader }) hT hsees hlater

theorem FirstSeen.next {ended : Ended} (hS : S.Settles) (hT : T.Settles)
    (h : FirstSeen S T start ended w) (hnext : Next S T w w') :
    FirstSeen S T start ended w' := by
  obtain ⟨v, hreaches, hwatch, hsees, hlater, -⟩ := h
  exact .of_sees hS hT hreaches hwatch hsees (hlater.tail hnext)

/-- How far the runner has come. -/
inductive Watched (S : Task α γ σ) (T : Task α γ τ) (start w : Session γ σ τ) : Prop
  | watching : w.watch = .watching → Watched S T start w
  | stopping {ended : Ended} : w.watch = .stopping ended → FirstSeen S T start ended w →
      Watched S T start w
  | finished {ended : Ended} : w.watch = .finished ended → BothEnded S T w →
      FirstSeen S T start ended w → Watched S T start w

theorem BothEnded.next (hS : S.Settles) (hT : T.Settles) (h : BothEnded S T w)
    (hnext : Next S T w w') : BothEnded S T w' := by
  constructor
  · rw [next_sender hS h.1 hnext]
    exact h.1
  · rw [next_receiver hT h.2 hnext]
    exact h.2

theorem Watched.next (hS : S.Settles) (hT : T.Settles) (hreaches : Reaches S T start w)
    (h : Watched S T start w) (hnext : Next S T w w') : Watched S T start w' := by
  rcases next_watch hnext with hsame | ⟨-, ⟨hw, ended, hsees, rfl⟩ | ⟨ended, hw, hboth, rfl⟩⟩
  -- the runner itself rests: what it saw stays seen, and tasks that have ended stay ended
  · cases h with
    | watching hw => exact .watching (hsame.trans hw)
    | stopping hw hfirst => exact .stopping (hsame.trans hw) (hfirst.next hS hT hnext)
    | finished hw hboth hfirst =>
        exact .finished (hsame.trans hw) (hboth.next hS hT hnext) (hfirst.next hS hT hnext)
  · exact .stopping rfl (.of_sees hS hT hreaches hw hsees .refl)
  · cases h with
    | watching hw' => cases hw.symm.trans hw'
    | stopping hw' hfirst =>
        cases hw.symm.trans hw'
        exact .finished rfl hboth (hfirst.next hS hT hnext)
    | finished hw' => cases hw.symm.trans hw'

theorem Watched.firstSeen {ended : Ended} (h : Watched S T start w)
    (hw : w.watch = .finished ended) : FirstSeen S T start ended w := by
  cases h with
  | watching hw' => cases hw.symm.trans hw'
  | stopping hw' => cases hw.symm.trans hw'
  | finished hw' _ hfirst =>
      cases hw.symm.trans hw'
      exact hfirst

theorem watched_of_reaches (hS : S.Settles) (hT : T.Settles) (hstart : start.watch = .watching)
    (h : Reaches S T start w) : Watched S T start w := by
  induction h with
  | refl => exact .watching hstart
  | tail hreaches hnext ih => exact ih.next hS hT hreaches hnext

end Session

end Crossover

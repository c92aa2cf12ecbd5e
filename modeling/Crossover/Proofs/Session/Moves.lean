import Crossover.Session.Attendance
import Crossover.Session.Feed
import Crossover.Session.Run

/-!
# What a move can be

The moves of a recorded feed, of a trader at its post and of the runner, each listed once as
cases, and the moves that must be there. Whatever is said about the steps of a session is said
by these cases; the branches of the tasks are not opened again.
-/

namespace Crossover

variable {α γ σ τ : Type}

namespace Recorded

variable {T : Task α (Candle α) τ} {stop : Bool} {l l' : Line (Candle α) (Recorded α) τ}

@[simp] theorem task_ending (s : Recorded α) : (task α).ending s = s.ending := rfl

@[simp] theorem task_holdsLine (s : Recorded α) : (task α).holdsLine s = s.ending.isNone := rfl

@[simp] theorem hasEnded_task (s : Recorded α) : (task α).hasEnded s = s.ending.isSome := rfl

@[simp] theorem dues_task (s : Recorded α) : (task α).dues s = [] := by
  cases s <;> rfl

/-- A recorded feed leaves when it is told to stop, or when it is refused; otherwise it hands
over its next item. -/
theorem senderMoves_cases (h : l' ∈ l.senderMoves (task α) T stop) :
    (stop = true ∧ l.sender.ending = none ∧ l' = { l with sender := .left (.ok ()) }) ∨
      ∃ item rest, l.sender = .handing item rest ∧
        ((T.holdsLine l.receiver = false ∧ l' = { l with sender := .left (.ok ()) }) ∨
          (T.holdsLine l.receiver = true ∧ l.slot = none ∧
            l' = { l with slot := some item, sender := send rest })) := by
  obtain ⟨b, hb, hmove⟩ := List.mem_filterMap.mp h
  cases hs : l.sender with
  | handing item rest =>
      simp only [task, Task.plain, branches, hs, List.mem_cons, List.not_mem_nil, or_false] at hb
      rcases hb with rfl | rfl
      · simp only [Line.senderMove?, Option.ite_none_right_eq_some, Option.some.injEq] at hmove
        exact .inl ⟨hmove.1, rfl, hmove.2.symm⟩
      · refine .inr ⟨item, rest, rfl, ?_⟩
        cases hT : T.holdsLine l.receiver with
        | false =>
            simp only [Line.senderMove?, hT, Bool.not_false, if_true, Option.some.injEq] at hmove
            exact .inl ⟨rfl, hmove.symm⟩
        | true =>
            simp only [Line.senderMove?, hT, Bool.not_true, Bool.false_eq_true, if_false,
              Option.ite_none_right_eq_some, Option.some.injEq, Option.isNone_iff_eq_none] at hmove
            exact .inr ⟨rfl, hmove.1, hmove.2.symm⟩
  | waiting =>
      simp only [task, Task.plain, branches, hs, List.mem_singleton] at hb
      subst hb
      simp only [Line.senderMove?, Option.ite_none_right_eq_some, Option.some.injEq] at hmove
      exact .inl ⟨hmove.1, rfl, hmove.2.symm⟩
  | left result =>
      simp only [task, Task.plain, branches, hs, List.not_mem_nil] at hb

theorem leave_mem_senderMoves (h : l.sender.ending = none) :
    { l with sender := .left (.ok ()) } ∈ l.senderMoves (task α) T true := by
  refine List.mem_filterMap.mpr ⟨.onStop fun _ => .left (.ok ()), ?_, rfl⟩
  cases hs : l.sender with
  | handing => simp [task, Task.plain, branches]
  | waiting => simp [task, Task.plain, branches]
  | left => simp [hs, ending] at h

theorem sent_mem_senderMoves {item : Candle α} {rest : List (Candle α)}
    (h : l.sender = .handing item rest) (hT : T.holdsLine l.receiver = true)
    (hslot : l.slot = none) :
    { l with slot := some item, sender := send rest } ∈ l.senderMoves (task α) T stop := by
  refine List.mem_filterMap.mpr
    ⟨.onSend item (fun _ => send rest) fun _ => .left (.ok ()), ?_, ?_⟩
  · simp [task, Task.plain, branches, h]
  · simp [Line.senderMove?, hT, hslot]

end Recorded

namespace Attendance

variable {S : Task α γ σ} {handle : γ → τ → τ × Except (Failure α) Unit} {idle : Option Nat}
  {stop : Bool} {l l' : Line γ σ (Attendance α τ)}

@[simp] theorem task_ending (s : Attendance α τ) :
    (task handle idle).ending s = s.ending := rfl

@[simp] theorem task_holdsLine (s : Attendance α τ) :
    (task handle idle).holdsLine s = s.ending.isNone := rfl

@[simp] theorem hasEnded_task (s : Attendance α τ) :
    (task handle idle).hasEnded s = s.ending.isSome := rfl

theorem ending_eq_none {s : Attendance α τ} (h : s.ending = none) :
    ∃ due, s.presence = .waiting due := by
  cases hp : s.presence with
  | waiting due => exact ⟨due, rfl⟩
  | left why => cases why <;> simp [ending, hp] at h

theorem ending_waiting {s : Attendance α τ} {due : Option Nat} (h : s.presence = .waiting due) :
    s.ending = none := by
  simp [ending, h]

theorem ending_leave {s : Attendance α τ} (why : Leaving α) : (s.leave why).ending ≠ none := by
  cases why <;> simp [ending, leave]

/-- A trader at its post takes the item that waits for it, or leaves: when the line has ended,
when it is told to stop, or when it has been idle for too long. -/
theorem receiverMoves_cases (h : l' ∈ l.receiverMoves S (task handle idle) stop) :
    ∃ due, l.receiver.presence = .waiting due ∧
      ((∃ item, l.slot = some item ∧
          l' = { l with slot := none, receiver := l.receiver.take handle idle item l.now }) ∨
        (l.slot = none ∧ S.holdsLine l.sender = false ∧
          l' = { l with receiver := l.receiver.leave .closed }) ∨
        (stop = true ∧ l' = { l with receiver := l.receiver.leave .stopped }) ∨
        ∃ d, due = some d ∧ d ≤ l.now ∧ l' = { l with receiver := l.receiver.leave .idle }) := by
  obtain ⟨b, hb, hmove⟩ := List.mem_filterMap.mp h
  cases hp : l.receiver.presence with
  | left why => simp [task, Task.plain, branches, hp] at hb
  | waiting due =>
      refine ⟨due, rfl, ?_⟩
      simp only [task, Task.plain, branches, hp, List.mem_append, List.mem_cons, List.not_mem_nil,
        or_false, List.mem_map, Option.mem_toList] at hb
      rcases hb with (rfl | rfl) | ⟨d, rfl, rfl⟩
      · cases hslot : l.slot with
        | some item =>
            simp only [Line.receiverMove?, hslot, Option.some.injEq] at hmove
            exact .inl ⟨item, rfl, hmove.symm⟩
        | none =>
            simp only [Line.receiverMove?, hslot, Option.ite_none_left_eq_some,
              Option.some.injEq, Bool.not_eq_true] at hmove
            exact .inr (.inl ⟨rfl, hmove.1, by rw [← hmove.2]⟩)
      · simp only [Line.receiverMove?, Option.ite_none_right_eq_some, Option.some.injEq] at hmove
        exact .inr (.inr (.inl ⟨hmove.1, hmove.2.symm⟩))
      · simp only [Line.receiverMove?, Option.ite_none_right_eq_some, Option.some.injEq] at hmove
        exact .inr (.inr (.inr ⟨d, rfl, hmove.1, hmove.2.symm⟩))

theorem take_mem_receiverMoves {due : Option Nat} {item : γ}
    (h : l.receiver.presence = .waiting due) (hslot : l.slot = some item) :
    { l with slot := none, receiver := l.receiver.take handle idle item l.now } ∈
      l.receiverMoves S (task handle idle) stop := by
  refine List.mem_filterMap.mpr
    ⟨.onReceive (fun item now => l.receiver.take handle idle item now)
      fun _ => l.receiver.leave .closed, ?_, ?_⟩
  · simp [task, Task.plain, branches, h]
  · simp [Line.receiverMove?, hslot]

theorem closed_mem_receiverMoves {due : Option Nat} (h : l.receiver.presence = .waiting due)
    (hslot : l.slot = none) (hS : S.holdsLine l.sender = false) :
    { l with receiver := l.receiver.leave .closed } ∈
      l.receiverMoves S (task handle idle) stop := by
  refine List.mem_filterMap.mpr
    ⟨.onReceive (fun item now => l.receiver.take handle idle item now)
      fun _ => l.receiver.leave .closed, ?_, ?_⟩
  · simp [task, Task.plain, branches, h]
  · simp only [Line.receiverMove?, hslot, hS, Bool.false_eq_true, if_false]

theorem stop_mem_receiverMoves {due : Option Nat} (h : l.receiver.presence = .waiting due) :
    { l with receiver := l.receiver.leave .stopped } ∈
      l.receiverMoves S (task handle idle) true := by
  refine List.mem_filterMap.mpr ⟨.onStop fun _ => l.receiver.leave .stopped, ?_, rfl⟩
  simp [task, Task.plain, branches, h]

theorem idle_mem_receiverMoves {d : Nat} (h : l.receiver.presence = .waiting (some d))
    (hd : d ≤ l.now) :
    { l with receiver := l.receiver.leave .idle } ∈
      l.receiverMoves S (task handle idle) stop := by
  refine List.mem_filterMap.mpr ⟨.onTime d fun _ => l.receiver.leave .idle, ?_, ?_⟩
  · simp [task, Task.plain, branches, h]
  · simp [Line.receiverMove?, hd]

theorem dues_waiting {s : Attendance α τ} {d : Nat} (h : s.presence = .waiting (some d)) :
    (task handle idle).dues s = [d] := by
  simp [Task.dues, task, Task.plain, branches, h]

end Attendance

namespace Session

variable {S : Task α γ σ} {T : Task α γ τ} {w w' : Session γ σ τ}

def distance : Watch → Nat
  | .watching => 2
  | .stopping _ => 1
  | .finished _ => 0

/-- The runner sees one of three things and stops both tasks, and finishes once both have
ended. -/
theorem runnerMoves_cases (h : w' ∈ runnerMoves S T w) :
    (w.watch = .watching ∧ ∃ ended, w' = { w with watch := .stopping ended } ∧
        ((ended = .signal ∧ w.signalled = true) ∨
          (ended = .feed ∧ S.hasEnded w.line.sender = true) ∨
          (ended = .trader ∧ T.hasEnded w.line.receiver = true))) ∨
      ∃ ended, w.watch = .stopping ended ∧ S.hasEnded w.line.sender = true ∧
        T.hasEnded w.line.receiver = true ∧ w' = { w with watch := .finished ended } := by
  unfold runnerMoves at h
  cases hw : w.watch with
  | watching =>
      simp only [hw, List.mem_append, List.mem_ite_nil_right, List.mem_singleton] at h
      rcases h with (⟨hs, rfl⟩ | ⟨hs, rfl⟩) | ⟨hs, rfl⟩
      · exact .inl ⟨rfl, .signal, rfl, .inl ⟨rfl, hs⟩⟩
      · exact .inl ⟨rfl, .feed, rfl, .inr (.inl ⟨rfl, hs⟩)⟩
      · exact .inl ⟨rfl, .trader, rfl, .inr (.inr ⟨rfl, hs⟩)⟩
  | stopping ended =>
      simp only [hw, List.mem_ite_nil_right, Bool.and_eq_true, List.mem_singleton] at h
      exact .inr ⟨ended, rfl, h.1.1, h.1.2, h.2⟩
  | finished ended => simp [hw] at h

theorem moves_cases (h : w' ∈ moves S T w) :
    (∃ l ∈ w.line.senderMoves S T w.watch.stops, w' = { w with line := l }) ∨
      (∃ l ∈ w.line.receiverMoves S T w.watch.stops, w' = { w with line := l }) ∨
      w' ∈ runnerMoves S T w := by
  rcases List.mem_append.mp h with hrunner | htask
  · exact .inr (.inr hrunner)
  · obtain ⟨l, hl, rfl⟩ := List.mem_map.mp htask
    rcases List.mem_append.mp hl with hfeed | htrader
    · exact .inl ⟨l, hfeed, rfl⟩
    · exact .inr (.inl ⟨l, htrader, rfl⟩)

theorem signalled_of_mem_moves (h : w' ∈ moves S T w) : w'.signalled = w.signalled := by
  rcases moves_cases h with ⟨l, -, rfl⟩ | ⟨l, -, rfl⟩ | hrunner
  · rfl
  · rfl
  · rcases runnerMoves_cases hrunner with ⟨-, ended, rfl, -⟩ | ⟨ended, -, -, -, rfl⟩
    · rfl
    · rfl

theorem moves_of_sender {l : Line γ σ τ} (h : l ∈ w.line.senderMoves S T w.watch.stops) :
    moves S T w ≠ [] :=
  List.ne_nil_of_mem (List.mem_append_right _ (List.mem_map_of_mem (List.mem_append_left _ h)))

theorem moves_of_receiver {l : Line γ σ τ} (h : l ∈ w.line.receiverMoves S T w.watch.stops) :
    moves S T w ≠ [] :=
  List.ne_nil_of_mem (List.mem_append_right _ (List.mem_map_of_mem (List.mem_append_right _ h)))

theorem moves_of_runner (h : w' ∈ runnerMoves S T w) : moves S T w ≠ [] :=
  List.ne_nil_of_mem (List.mem_append_left _ h)

theorem watching_runnerMoves (hw : w.watch = .watching)
    (ht : T.hasEnded w.line.receiver = true) : runnerMoves S T w ≠ [] := by
  simp [runnerMoves, hw, ht]

theorem stopping_runnerMoves {ended : Ended} (hw : w.watch = .stopping ended)
    (hs : S.hasEnded w.line.sender = true) (ht : T.hasEnded w.line.receiver = true) :
    runnerMoves S T w ≠ [] := by
  simp [runnerMoves, hw, hs, ht]

end Session

end Crossover

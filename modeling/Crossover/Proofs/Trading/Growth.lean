import Crossover.Proofs.Trading.Calls

/-!
# Growth of the ledger

In a step the ledger stays as it is, or its last position is closed, or an open one is added, or
both, the closing first. What is closed is never touched again. The closing order of an open
position always exists, so that a step meets no failure but those with which the budget answers.
-/

namespace Crossover

variable {α β ρ : Type}

namespace Simulated

/-- What a step may make of the ledger. -/
inductive Grows (ledger : List (Position α)) : List (Position α) → Prop
  | same : Grows ledger ledger
  | closed {settled : List (Position α)} {p : Position α} (closing : Order α) :
      ledger = settled ++ [p] → p.isOpen = true → Grows ledger (settled ++ [p.close closing])
  | opened {p : Position α} : p.isOpen = true → Grows ledger (ledger ++ [p])
  | reopened {settled : List (Position α)} {p q : Position α} (closing : Order α) :
      ledger = settled ++ [p] → p.isOpen = true → q.isOpen = true →
      Grows ledger (settled ++ [p.close closing] ++ [q])

/-- In a ledger with one open position at its end, a closed one lies before that. -/
theorem lt_length_of_closed {settled : List (Position α)} {p q : Position α} {i : Nat}
    (hopen : p.isOpen = true) (hi : (settled ++ [p])[i]? = some q) (hq : q.isOpen = false) :
    i < settled.length := by
  rcases Nat.lt_or_ge i settled.length with hlt | hge
  · exact hlt
  · rw [List.getElem?_append_right hge] at hi
    rw [List.mem_singleton.mp (List.mem_of_getElem? hi), hopen] at hq
    cases hq

theorem Grows.closed_kept {ledger ledger' : List (Position α)} (h : Grows ledger ledger') {i : Nat}
    {p : Position α} (hi : ledger[i]? = some p) (hp : p.isOpen = false) :
    ledger'[i]? = some p := by
  cases h with
  | same => exact hi
  | closed closing hl hopen =>
      subst hl
      have hlt := lt_length_of_closed hopen hi hp
      rw [List.getElem?_append_left hlt] at hi ⊢
      exact hi
  | opened _ =>
      have hlt : i < ledger.length := (List.getElem?_eq_some_iff.mp hi).1
      rw [List.getElem?_append_left hlt]
      exact hi
  | reopened closing hl hopen _ =>
      subst hl
      have hlt := lt_length_of_closed hopen hi hp
      rw [List.append_assoc, List.getElem?_append_left hlt]
      rw [List.getElem?_append_left hlt] at hi
      exact hi

section Attempts

variable {budget : Budget α β} {side : Side} {action : Action} {candle : Candle α}
  {s t : Simulated α β} {r : Except (Failure α) Unit}

theorem Closes.grows (h : Closes budget candle s r t) : Grows s.ledger t.ledger := by
  cases h with
  | refused _ _ => exact .same
  | done hs _ => exact .closed _ hs.ledger hs.isOpen

theorem Opens.grows (h : Opens budget side candle s r t) : Grows s.ledger t.ledger := by
  cases h with
  | refused _ _ => exact .same
  | done _ _ => exact .opened rfl

theorem Attempts.grows (h : Attempts budget side candle s action r t) :
    Grows s.ledger t.ledger := by
  cases h with
  | nothing _ => exact .same
  | closes hclose => exact hclose.grows
  | opens hopen => exact hopen.grows
  | unclosed hclose => exact hclose.grows
  | reopens hclose hopen =>
      cases hclose with
      | done hs _ =>
          cases hopen with
          | refused _ _ => exact .closed _ hs.ledger hs.isOpen
          | done _ _ => exact .reopened _ hs.ledger hs.isOpen rfl

end Attempts

section Recording

variable {budget : Budget α β} {side : Side} {action : Action} {candle : Candle α}
  {s t : Simulated α (β × List (Budget.Call α))} {f : Failure α}

theorem Closes.answered (h : Closes budget.recording candle s (.error f) t) :
    ∃ call ∈ t.budget.2, call.reply = .error f := by
  cases h with
  | refused _ hb =>
      rw [(Budget.recording_bookClose hb).2]
      exact ⟨_, List.mem_append_right _ (List.mem_singleton_self _), rfl⟩

theorem Opens.answered (h : Opens budget.recording side candle s (.error f) t) :
    ∃ call ∈ t.budget.2, call.reply = .error f := by
  cases h with
  | refused _ hb =>
      rw [(Budget.recording_bookOpen hb).2]
      exact ⟨_, List.mem_append_right _ (List.mem_singleton_self _), rfl⟩

theorem Attempts.answered (h : Attempts budget.recording side candle s action (.error f) t) :
    ∃ call ∈ t.budget.2, call.reply = .error f := by
  cases h with
  | closes hclose => exact hclose.answered
  | opens hopen => exact hopen.answered
  | unclosed hclose => exact hclose.answered
  | reopens _ hopen => exact hopen.answered

end Recording

def Note.failure? : Note α β → Option (Failure α)
  | .skipped _ _ _ failure => some failure
  | _ => none

@[simp] theorem failure?_remark (report : Remark α) :
    (Note.remark report : Note α β).failure? = none := rfl

@[simp] theorem failure?_forceClosing (b : β) :
    (Note.forceClosing b : Note α β).failure? = none := rfl

@[simp] theorem failure?_skipped (side : Side) (action : Action) (price : α) (f : Failure α) :
    (Note.skipped side action price f : Note α β).failure? = some f := rfl

/-- A step meets a failure: it ends with it, or reports that it has skipped it. -/
def Turn.Meets (t : Turn α β) (f : Failure α) : Prop :=
  t.result = .error f ∨ f ∈ t.notes.filterMap Note.failure?

variable [Scalar α] {budget : Budget α β} {candle : Candle α} {s : Simulated α β}

theorem failures_close : (close budget candle s).notes.filterMap Note.failure? = [] := by
  unfold close
  cases s.current? with
  | none => rfl
  | some p =>
      simp only
      rcases budget.bookClose s.budget p.side p.status candle with ⟨f | quantity, b⟩
      · rfl
      · cases p.closingOrder with
        | error f => rfl
        | ok order => rfl

omit [Scalar α] in
theorem failures_append (side : Side) :
    (append budget side candle s).notes.filterMap Note.failure? = [] := by
  unfold append
  rcases budget.bookOpen s.budget side candle with ⟨f | quantity, b⟩
  · rfl
  · rfl

theorem failures_attempt (side : Side) (action : Action) :
    (attempt budget side action candle s).notes.filterMap Note.failure? = [] := by
  cases action with
  | closePosition => exact failures_close
  | openPosition =>
      simp only [attempt, openPosition]
      cases s.current? with
      | none => exact failures_append side
      | some p =>
          simp only
          cases (close budget candle s).result with
          | error f => exact failures_close
          | ok _ =>
              rw [List.cons_append, List.filterMap_cons_none (failure?_forceClosing s.budget),
                List.filterMap_append, failures_close, failures_append, List.append_nil]

/-- What a step meets after an advice is what the attempt failed with. -/
theorem attempt_failed_of_act_meets {side : Side} {action : Action} {f : Failure α}
    (h : (act budget side action candle s).Meets f) :
    (attempt budget side action candle s).result = .error f := by
  rw [act_eq_judged, Turn.judged] at h
  cases hr : (attempt budget side action candle s).result with
  | ok _ => simp [Turn.Meets, hr, failures_attempt] at h
  | error f' =>
      by_cases hf : f'.isRecoverable = true
      · simp only [hr, hf, if_true, Turn.Meets, List.filterMap_append, failures_attempt] at h
        simpa [eq_comm] using h
      · simpa [hr, hf, Turn.Meets, failures_attempt] using h

theorem follow_meets_of_handle_meets {rule : Rule α ρ} {r : ρ} {f : Failure α}
    (h : (handle rule budget candle (s, r)).1.Meets f) :
    (follow budget (rule.advise r candle).1 candle s).Meets f := by
  cases hremark : rule.remark (rule.advise r candle).2 candle (rule.advise r candle).1 with
  | none => simpa [handle, Turn.Meets, hremark] using h
  | some report => simpa [handle, Turn.Meets, hremark] using h

/-- Whatever a step meets is the answer to a call it made. -/
theorem answered_of_meets (rule : Rule α ρ) (r : ρ) (horder : InOrder s.ledger) {f : Failure α}
    (h : (handle rule budget candle (s, r)).1.Meets f) :
    ∃ call ∈ calls rule budget [candle] (s, r), call.reply = .error f := by
  have hfollow := follow_meets_of_handle_meets h
  have hcalls : calls rule budget [candle] (s, r) =
      (follow budget.recording (rule.advise r candle).1 candle s.unasked).state.budget.2 := rfl
  rw [hcalls]
  cases hsignal : (rule.advise r candle).1 with
  | hold => simp [hsignal, follow, Turn.Meets] at hfollow
  | advice side action =>
      rw [hsignal, follow] at hfollow
      have hfailed := attempt_failed_of_act_meets hfollow
      -- the same attempt with the recording budget, which ends alike and has the call on its list
      have hattempt := attempts budget.recording candle (s := s.unasked) side action horder
      rw [attempt_recording_result, hfailed] at hattempt
      rw [follow, act_state]
      exact hattempt.answered

theorem grows_follow (signal : Signal) (horder : InOrder s.ledger) :
    Grows s.ledger (follow budget signal candle s).state.ledger := by
  cases signal with
  | hold => exact .same
  | advice side action =>
      rw [follow, act_state]
      exact (attempts budget candle side action horder).grows

omit [Scalar α] in
theorem closingOrder_of_current? (horder : InOrder s.ledger) {p : Position α}
    (hp : s.current? = some p) : ∃ o, p.closingOrder = .ok o := by
  rcases horder.settled_or_holds with hall | ⟨settled, q, o, hs⟩
  · rw [current?_resting fun q hq => (hall q hq).isClosed] at hp
    cases hp
  · rw [current?_holding hs.ledger hs.isOpen] at hp
    cases hp
    exact ⟨_, Position.closingOrder_singleton hs.orders⟩

end Simulated

end Crossover

import Crossover.Proofs.Trading.Ledger
import Crossover.Rehearsal.Doubles

/-!
# Calls to a budget

A budget can be made to keep a list of the calls it answers. A run with the recording budget is
the run with the bare one, so the list tells which calls a run makes and how they are answered.
-/

namespace Crossover

variable {α β β' ρ : Type}

namespace Budget

def Call.reply : Call α → Except (Failure α) α
  | .opening _ _ reply => reply
  | .closing _ _ _ reply => reply

theorem recording_bookOpen {budget : Budget α β} {b b' : β × List (Call α)} {side : Side}
    {candle : Candle α} {reply : Except (Failure α) α}
    (h : budget.recording.bookOpen b side candle = (reply, b')) :
    budget.bookOpen b.1 side candle = (reply, b'.1) ∧
      b'.2 = b.2 ++ [.opening side candle reply] := by
  obtain ⟨rfl, rfl⟩ := Prod.mk.inj h
  exact ⟨rfl, rfl⟩

theorem recording_bookClose {budget : Budget α β} {b b' : β × List (Call α)} {side : Side}
    {status : Status} {candle : Candle α} {reply : Except (Failure α) α}
    (h : budget.recording.bookClose b side status candle = (reply, b')) :
    budget.bookClose b.1 side status candle = (reply, b'.1) ∧
      b'.2 = b.2 ++ [.closing side status candle reply] := by
  obtain ⟨rfl, rfl⟩ := Prod.mk.inj h
  exact ⟨rfl, rfl⟩

/-- A budget whose balances can be read as those of another one, booking for booking. -/
structure ReadAs (budget' : Budget α β') (g : β' → β) (budget : Budget α β) : Prop where
  opening : ∀ b side candle, budget.bookOpen (g b) side candle =
    ((budget'.bookOpen b side candle).1, g (budget'.bookOpen b side candle).2)
  closing : ∀ b side status candle, budget.bookClose (g b) side status candle =
    ((budget'.bookClose b side status candle).1, g (budget'.bookClose b side status candle).2)

theorem recording_readAs (budget : Budget α β) : budget.recording.ReadAs Prod.fst budget where
  opening _ _ _ := rfl
  closing _ _ _ _ := rfl

end Budget

namespace Simulated

def Note.view (g : β' → β) : Note α β' → Note α β
  | .remark report => .remark report
  | .forceClosing budget => .forceClosing (g budget)
  | .opened position side price quantity budget =>
    .opened position side price quantity (g budget)
  | .closed position side price profit budget => .closed position side price profit (g budget)
  | .nothingOpen => .nothingOpen
  | .skipped side action price failure => .skipped side action price failure

def view (g : β' → β) (s : Simulated α β') : Simulated α β :=
  ⟨g s.budget, s.ledger⟩

def Turn.view (g : β' → β) (t : Turn α β') : Turn α β :=
  ⟨t.state.view g, t.notes.map (Note.view g), t.result⟩

@[simp] theorem Turn.view_state (g : β' → β) (t : Turn α β') :
    (t.view g).state = t.state.view g := rfl

@[simp] theorem Turn.view_result (g : β' → β) (t : Turn α β') :
    (t.view g).result = t.result := rfl

@[simp] theorem current?_view (g : β' → β) (s : Simulated α β') :
    (s.view g).current? = s.current? := rfl

section Views

variable [Scalar α] {budget' : Budget α β'} {budget : Budget α β} {g : β' → β}
  (h : budget'.ReadAs g budget) (candle : Candle α) (s : Simulated α β')

include h

theorem close_view : close budget candle (s.view g) = (close budget' candle s).view g := by
  unfold close
  rw [current?_view]
  cases s.current? with
  | none => rfl
  | some p =>
      simp only [Simulated.view, h.closing]
      rcases budget'.bookClose s.budget p.side p.status candle with ⟨f | quantity, b⟩
      · rfl
      · cases p.closingOrder with
        | error f => rfl
        | ok order => rfl

omit [Scalar α] in
theorem append_view (side : Side) :
    append budget side candle (s.view g) = (append budget' side candle s).view g := by
  unfold append
  simp only [Simulated.view, h.opening]
  rcases budget'.bookOpen s.budget side candle with ⟨f | quantity, b⟩
  · rfl
  · rfl

theorem openPosition_view (side : Side) :
    openPosition budget side candle (s.view g) =
      (openPosition budget' side candle s).view g := by
  unfold openPosition
  rw [current?_view]
  cases s.current? with
  | none => exact append_view h candle s side
  | some p =>
      -- the position is opened in the state the close has left, which is viewed as well
      simp only [close_view h, append_view h, Turn.view_state, Turn.view_result]
      cases (close budget' candle s).result with
      | error f => rfl
      | ok _ => simp [Turn.view, Note.view, view]

theorem attempt_view (side : Side) (action : Action) :
    attempt budget side action candle (s.view g) =
      (attempt budget' side action candle s).view g := by
  cases action with
  | openPosition => exact openPosition_view h candle s side
  | closePosition => exact close_view h candle s

omit [Scalar α] h in
theorem judged_view (side : Side) (action : Action) (price : α) (t : Turn α β') :
    (t.view g).judged side action price = (t.judged side action price).view g := by
  unfold Turn.judged
  rw [Turn.view_result]
  cases t.result with
  | ok _ => rfl
  | error f => by_cases hf : f.isRecoverable <;> simp [Turn.view, Note.view, hf]

theorem act_view (side : Side) (action : Action) :
    act budget side action candle (s.view g) = (act budget' side action candle s).view g := by
  rw [act_eq_judged, act_eq_judged, attempt_view h, judged_view]

theorem follow_view (signal : Signal) :
    follow budget signal candle (s.view g) = (follow budget' signal candle s).view g := by
  cases signal with
  | hold => rfl
  | advice side action => exact act_view h candle s side action

/-- A step can be taken with the richer balances and read afterwards. -/
theorem handle_view (rule : Rule α ρ) (r : ρ) :
    handle rule budget candle (s.view g, r) =
      ((handle rule budget' candle (s, r)).1.view g, (handle rule budget' candle (s, r)).2) := by
  simp only [handle, follow_view h]
  cases rule.remark (rule.advise r candle).2 candle (rule.advise r candle).1 with
  | none => rfl
  | some remark => rfl

theorem handleAll_view (rule : Rule α ρ) (bars : List (Candle α)) (r : ρ) :
    handleAll rule budget bars (s.view g, r) =
      ((handleAll rule budget' bars (s, r)).1.view g, (handleAll rule budget' bars (s, r)).2) := by
  induction bars generalizing s r with
  | nil => rfl
  | cons bar bars ih =>
      have hstep := handle_view h bar s rule r
      simp only [handleAll, List.foldl_cons, hstep]
      exact ih _ _

end Views

variable [Scalar α]

def unasked (s : Simulated α β) : Simulated α (β × List (Budget.Call α)) :=
  ⟨(s.budget, []), s.ledger⟩

def calls (rule : Rule α ρ) (budget : Budget α β) (bars : List (Candle α))
    (s : Simulated α β × ρ) : List (Budget.Call α) :=
  (handleAll rule budget.recording bars (s.1.unasked, s.2)).1.budget.2

theorem attempt_recording_result (budget : Budget α β) (side : Side) (action : Action)
    (candle : Candle α) (s : Simulated α β) :
    (attempt budget.recording side action candle s.unasked).result =
      (attempt budget side action candle s).result :=
  congrArg Turn.result (attempt_view budget.recording_readAs candle s.unasked side action).symm

/-- Recording changes nothing else. -/
theorem handleAll_recording (rule : Rule α ρ) (budget : Budget α β) (bars : List (Candle α))
    (s : Simulated α β × ρ) :
    handleAll rule budget bars s =
      ((handleAll rule budget.recording bars (s.1.unasked, s.2)).1.view Prod.fst,
        (handleAll rule budget.recording bars (s.1.unasked, s.2)).2) :=
  handleAll_view budget.recording_readAs s.1.unasked rule bars s.2

end Simulated

end Crossover

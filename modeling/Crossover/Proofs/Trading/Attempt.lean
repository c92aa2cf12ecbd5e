import Crossover.Trading.Live
import Crossover.Trading.Simulated

/-!
# Attempts

An advice makes a trader attempt something, and the trader then judges how it ended: a
recoverable failure is forgiven. Both traders are cut in two here, the attempt and the judgement,
so that what is said of an attempt carries over to the step.
-/

namespace Crossover

/-- A result as a trader takes it: recoverable failures are skipped. -/
def Failure.forgiven {α ω : Type} : Except (Failure α) ω → Except (Failure α) Unit
  | .ok _ => .ok ()
  | .error f => if f.isRecoverable then .ok () else .error f

namespace Failure

variable {α ω : Type} {r : Except (Failure α) ω}

theorem forgiven_eq_error {f : Failure α} (h : forgiven r = .error f) :
    r = .error f ∧ f.isRecoverable = false := by
  cases r with
  | ok x => cases h
  | error f' =>
      by_cases hf : f'.isRecoverable = true
      · rw [forgiven, if_pos hf] at h
        cases h
      · rw [forgiven, if_neg hf] at h
        cases h
        exact ⟨rfl, Bool.eq_false_iff.mpr hf⟩

theorem forgiven_eq_ok (h : ∀ f, r = .error f → f.isRecoverable = true) :
    forgiven r = .ok () := by
  cases r with
  | ok x => rfl
  | error f => rw [forgiven, if_pos (h f rfl)]

@[simp] theorem forgiven_map {ω' : Type} (g : ω → ω') : forgiven (r.map g) = forgiven r := by
  cases r <;> rfl

/-- A failure is recoverable if whatever is not forgiven of it is. -/
theorem recoverable_of_forgiven {f : Failure α} (hr : r = .error f)
    (h : ∀ f', forgiven r = .error f' → f'.isRecoverable = true) : f.isRecoverable = true := by
  subst hr
  by_cases hf : f.isRecoverable = true
  · exact hf
  · exact h f (if_neg hf)

end Failure

variable {α β κ ρ : Type}

/-- A rule that gives signals off a list, and holds when there is none left. -/
def Rule.reciting (α : Type) : Rule α (List Signal) where
  name _ := "reciting"
  advise signals _ := (signals.headD .hold, signals.tail)
  remark _ _ _ := none

namespace Simulated

variable [Scalar α]

def attempt (budget : Budget α β) (side : Side) (action : Action) (candle : Candle α)
    (s : Simulated α β) : Turn α β :=
  match action with
  | .openPosition => openPosition budget side candle s
  | .closePosition => close budget candle s

/-- The attempt as the trader takes it: a recoverable failure is noted and skipped. -/
def Turn.judged (side : Side) (action : Action) (price : α) (t : Turn α β) : Turn α β :=
  match t.result with
  | .ok () => t
  | .error f =>
    if f.isRecoverable then ⟨t.state, t.notes ++ [.skipped side action price f], .ok ()⟩ else t

omit [Scalar α] in
theorem Turn.judged_state (side : Side) (action : Action) (price : α) (t : Turn α β) :
    (t.judged side action price).state = t.state := by
  unfold judged
  grind

omit [Scalar α] in
theorem Turn.judged_result (side : Side) (action : Action) (price : α) (t : Turn α β) :
    (t.judged side action price).result = Failure.forgiven t.result := by
  unfold judged Failure.forgiven
  grind

variable {budget : Budget α β} {candle : Candle α} {s : Simulated α β}

theorem act_eq_judged (side : Side) (action : Action) :
    act budget side action candle s =
      (attempt budget side action candle s).judged side action candle.closePrice := by
  cases action <;> rfl

theorem act_state (side : Side) (action : Action) :
    (act budget side action candle s).state = (attempt budget side action candle s).state := by
  rw [act_eq_judged, Turn.judged_state]

theorem act_result (side : Side) (action : Action) :
    (act budget side action candle s).result =
      Failure.forgiven (attempt budget side action candle s).result := by
  rw [act_eq_judged, Turn.judged_result]

theorem handle_state (rule : Rule α ρ) (r : ρ) :
    (handle rule budget candle (s, r)).1.state =
      (follow budget (rule.advise r candle).1 candle s).state := rfl

theorem handle_result (rule : Rule α ρ) (r : ρ) :
    (handle rule budget candle (s, r)).1.result =
      (follow budget (rule.advise r candle).1 candle s).result := rfl

end Simulated

namespace Live

def attempt (budget : Budget α β) (exchange : Exchange α κ) (side : Side) (action : Action)
    (candle : Candle α) (s : Live α β κ) : Turn α β κ (Option (Position α)) :=
  match action with
  | .openPosition => openPosition budget exchange side candle s
  | .closePosition => close budget exchange candle s

/-- The attempt as the trader takes it: it is reported, and a recoverable failure is skipped. -/
def Turn.judged (side : Side) (action : Action) (price : α)
    (t : Turn α β κ (Option (Position α))) : Turn α β κ Unit :=
  match t.result with
  | .ok none => ⟨t.state, t.notes, .ok ()⟩
  | .ok (some p) => ⟨t.state, t.notes ++ [.updated p.id side action price t.state.budget], .ok ()⟩
  | .error f =>
    if f.isRecoverable then ⟨t.state, t.notes ++ [.skipped side action price f], .ok ()⟩
    else ⟨t.state, t.notes ++ [.failed side action price f], .error f⟩

variable {budget : Budget α β} {exchange : Exchange α κ} {candle : Candle α} {s : Live α β κ}

theorem act_eq_judged (side : Side) (action : Action) :
    act budget exchange side action candle s =
      (attempt budget exchange side action candle s).judged side action candle.closePrice := by
  cases action <;> rfl

theorem act_state (side : Side) (action : Action) :
    (act budget exchange side action candle s).state =
      (attempt budget exchange side action candle s).state := by
  unfold act attempt
  grind

theorem act_result (side : Side) (action : Action) :
    (act budget exchange side action candle s).result =
      Failure.forgiven (attempt budget exchange side action candle s).result := by
  unfold act attempt Failure.forgiven
  grind

theorem handle_state (rule : Rule α ρ) (r : ρ) :
    (handle rule budget exchange candle (s, r)).1.state =
      (follow budget exchange (rule.advise r candle).1 candle s).state := rfl

theorem handle_result (rule : Rule α ρ) (r : ρ) :
    (handle rule budget exchange candle (s, r)).1.result =
      (follow budget exchange (rule.advise r candle).1 candle s).result := rfl

end Live

end Crossover

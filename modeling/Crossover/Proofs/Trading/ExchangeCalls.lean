import Crossover.Proofs.Trading.Agreement
import Crossover.Rehearsal.Doubles

/-!
# Calls to an exchange

An exchange can be made to keep a list of the calls it answers. A live trader on the recording
exchange does what it does on the bare one, and which calls it makes does not depend on those
made before, so the list tells what a trader asks of an exchange while it handles some bars.
-/

namespace Crossover

variable {α β κ κ' ρ : Type}

namespace Exchange

section Recordings

variable (exchange : Exchange α κ) (k : κ × List (Call α)) {k' : κ}

theorem recording_newest {reply : Except (Failure α) (Option (Position α))}
    (h : exchange.newest k.1 = (reply, k')) :
    exchange.recording.newest k = (reply, (k', k.2 ++ [.lookup reply])) := by
  simp only [recording, noting, h]

theorem recording_create {new : NewPosition} {quantity : α}
    {reply : Except (Failure α) (Position α)}
    (h : exchange.create k.1 new quantity = (reply, k')) :
    exchange.recording.create k new quantity =
      (reply, (k', k.2 ++ [.creation new quantity reply])) := by
  simp only [recording, noting, h]

theorem recording_order {new : NewOrder α} {reply : Except (Failure α) (Order α)}
    (h : exchange.order k.1 new = (reply, k')) :
    exchange.recording.order k new = (reply, (k', k.2 ++ [.ordering new reply])) := by
  simp only [recording, noting, h]

theorem recording_close {id : String} {reply : Except (Failure α) (Option (Position α))}
    (h : exchange.close k.1 id = (reply, k')) :
    exchange.recording.close k id = (reply, (k', k.2 ++ [.closing id reply])) := by
  simp only [recording, noting, h]

end Recordings

/-- An exchange whose states can be read as those of another one, call for call. -/
structure ReadAs (exchange' : Exchange α κ') (g : κ' → κ) (exchange : Exchange α κ) : Prop where
  newest : ∀ k, exchange.newest (g k) = ((exchange'.newest k).1, g (exchange'.newest k).2)
  create : ∀ k new quantity, exchange.create (g k) new quantity =
    ((exchange'.create k new quantity).1, g (exchange'.create k new quantity).2)
  order : ∀ k new, exchange.order (g k) new =
    ((exchange'.order k new).1, g (exchange'.order k new).2)
  close : ∀ k id, exchange.close (g k) id =
    ((exchange'.close k id).1, g (exchange'.close k id).2)

theorem recording_readAs (exchange : Exchange α κ) :
    exchange.recording.ReadAs Prod.fst exchange :=
  ⟨fun _ => rfl, fun _ _ _ => rfl, fun _ _ => rfl, fun _ _ => rfl⟩

def preceded (calls : List (Call α)) (k : κ × List (Call α)) : κ × List (Call α) :=
  (k.1, calls ++ k.2)

theorem noting_preceded {ω : Type} (call : κ → Except (Failure α) ω × κ)
    (note : Except (Failure α) ω → Call α) (calls : List (Call α)) (k : κ × List (Call α)) :
    noting call note (preceded calls k) =
      ((noting call note k).1, preceded calls (noting call note k).2) := by
  simp only [noting, preceded, List.append_assoc]

/-- What is recorded from here on does not depend on what was recorded before. -/
theorem recording_readAs_preceded (exchange : Exchange α κ) (calls : List (Call α)) :
    exchange.recording.ReadAs (preceded calls) exchange.recording :=
  ⟨noting_preceded exchange.newest .lookup calls,
    fun k new quantity => noting_preceded (fun k => exchange.create k new quantity)
      (.creation new quantity) calls k,
    fun k new => noting_preceded (fun k => exchange.order k new) (.ordering new) calls k,
    fun k id => noting_preceded (fun k => exchange.close k id) (.closing id) calls k⟩

end Exchange

namespace Live

def view (g : κ' → κ) (s : Live α β κ') : Live α β κ :=
  ⟨s.budget, g s.exchange, s.current⟩

def Turn.view {ω : Type} (g : κ' → κ) (t : Turn α β κ' ω) : Turn α β κ ω :=
  ⟨t.state.view g, t.notes, t.result⟩

@[simp] theorem view_current (g : κ' → κ) (s : Live α β κ') : (s.view g).current = s.current := rfl

@[simp] theorem Turn.view_state {ω : Type} (g : κ' → κ) (t : Turn α β κ' ω) :
    (t.view g).state = t.state.view g := rfl

@[simp] theorem Turn.view_result {ω : Type} (g : κ' → κ) (t : Turn α β κ' ω) :
    (t.view g).result = t.result := rfl

section Views

variable {exchange' : Exchange α κ'} {exchange : Exchange α κ} {g : κ' → κ}
  (h : exchange'.ReadAs g exchange) (budget : Budget α β) (candle : Candle α) (s : Live α β κ')

include h

theorem closeTracked_view (p : Position α) :
    closeTracked budget exchange candle p (s.view g) =
      (closeTracked budget exchange' candle p s).view g := by
  unfold closeTracked
  simp only [view]
  rcases budget.bookClose s.budget p.side p.status candle with ⟨f | quantity, b⟩
  · rfl
  · cases p.closingOrder with
    | error f => rfl
    | ok closing =>
        simp only [h.order]
        rcases exchange'.order s.exchange ⟨p.id, closing.quantity, closing.side⟩ with ⟨f | o, k⟩
        · rfl
        · simp only [h.close]
          rcases exchange'.close k p.id with ⟨f | reply, k'⟩
          · rfl
          · rfl

theorem closeCurrent_view :
    closeCurrent budget exchange candle (s.view g) =
      (closeCurrent budget exchange' candle s).view g := by
  unfold closeCurrent
  rw [view_current]
  cases s.current with
  | none => rfl
  | some p =>
      by_cases hopen : p.isOpen = true
      · simp only [hopen, if_true]
        exact closeTracked_view h budget candle s p
      · simp only [hopen]
        rfl

theorem close_view :
    close budget exchange candle (s.view g) = (close budget exchange' candle s).view g := by
  cases hcurrent : s.current with
  | some p =>
      unfold close
      simp only [view_current, hcurrent]
      exact closeCurrent_view h budget candle s
  | none =>
      rcases hcall : exchange'.newest s.exchange with ⟨f | newest, k⟩
      · have hcall' : exchange.newest (s.view g).exchange = (.error f, g k) :=
          (h.newest s.exchange).trans (by rw [hcall])
        rw [close_unseen hcurrent hcall, close_unseen (s := s.view g) hcurrent hcall']
        rfl
      · have hcall' : exchange.newest (s.view g).exchange = (.ok newest, g k) :=
          (h.newest s.exchange).trans (by rw [hcall])
        rw [close_seen hcurrent hcall, close_seen (s := s.view g) hcurrent hcall']
        exact closeCurrent_view h budget candle
          { s with exchange := k, current := newest.filter Position.isOpen }

theorem create_view (side : Side) :
    create budget exchange side candle (s.view g) =
      (create budget exchange' side candle s).view g := by
  unfold create
  simp only [view]
  rcases budget.bookOpen s.budget side candle with ⟨f | quantity, b⟩
  · rfl
  · simp only [h.create]
    rcases exchange'.create s.exchange ⟨candle.symbolId, side⟩ quantity with ⟨f | p, k⟩
    · rfl
    · rfl

theorem openPosition_view (side : Side) :
    openPosition budget exchange side candle (s.view g) =
      (openPosition budget exchange' side candle s).view g := by
  unfold openPosition
  rw [view_current]
  cases s.current with
  | none => exact create_view h budget candle s side
  | some p =>
      simp only [close_view h, Turn.view_result, Turn.view_state, create_view h]
      cases (close budget exchange' candle s).result with
      | error f => rfl
      | ok reply => rfl

theorem attempt_view (side : Side) (action : Action) :
    attempt budget exchange side action candle (s.view g) =
      (attempt budget exchange' side action candle s).view g := by
  cases action with
  | openPosition => exact openPosition_view h budget candle s side
  | closePosition => exact close_view h budget candle s

omit h in
theorem judged_view (side : Side) (action : Action) (price : α)
    (t : Turn α β κ' (Option (Position α))) :
    (t.view g).judged side action price = (t.judged side action price).view g := by
  unfold Turn.judged
  rw [Turn.view_result]
  rcases t.result with f | _ | p
  · by_cases hf : f.isRecoverable = true
    · simp only [hf, if_true]
      rfl
    · simp only [hf]
      rfl
  · rfl
  · rfl

theorem act_view (side : Side) (action : Action) :
    act budget exchange side action candle (s.view g) =
      (act budget exchange' side action candle s).view g := by
  rw [act_eq_judged, act_eq_judged, attempt_view h, judged_view]

theorem follow_view (signal : Signal) :
    follow budget exchange signal candle (s.view g) =
      (follow budget exchange' signal candle s).view g := by
  cases signal with
  | hold => rfl
  | advice side action => exact act_view h budget candle s side action

/-- A step can be taken in the richer state and read afterwards. -/
theorem handle_view (rule : Rule α ρ) (r : ρ) :
    handle rule budget exchange candle (s.view g, r) =
      ((handle rule budget exchange' candle (s, r)).1.view g,
        (handle rule budget exchange' candle (s, r)).2) := by
  simp only [handle, follow_view h]
  rfl

end Views

theorem handleAll_view {market' : Candle α → Exchange α κ'} {market : Candle α → Exchange α κ}
    {g : κ' → κ} (h : ∀ candle, (market' candle).ReadAs g (market candle)) (rule : Rule α ρ)
    (budget : Budget α β) (bars : List (Candle α)) (s : Live α β κ') (r : ρ) :
    handleAll rule budget market bars (s.view g, r) =
      ((handleAll rule budget market' bars (s, r)).1.view g,
        (handleAll rule budget market' bars (s, r)).2) := by
  induction bars generalizing s r with
  | nil => rfl
  | cons bar bars ih =>
      have hstep := handle_view (h bar) budget bar s rule r
      simp only [handleAll, List.foldl_cons, hstep]
      exact ih _ _

def unasked (s : Live α β κ) : Live α β (κ × List (Exchange.Call α)) :=
  ⟨s.budget, (s.exchange, []), s.current⟩

section Recordings

variable (rule : Rule α ρ) (budget : Budget α β) (market : Candle α → Exchange α κ)

def calls (bars : List (Candle α)) (s : Live α β κ × ρ) : List (Exchange.Call α) :=
  (handleAll rule budget (fun bar => (market bar).recording) bars (s.1.unasked, s.2)).1.exchange.2

/-- Recording changes nothing else. -/
theorem handleAll_recording (bars : List (Candle α)) (s : Live α β κ × ρ) :
    handleAll rule budget market bars s =
      ((handleAll rule budget (fun bar => (market bar).recording) bars
          (s.1.unasked, s.2)).1.view Prod.fst,
        (handleAll rule budget (fun bar => (market bar).recording) bars (s.1.unasked, s.2)).2) :=
  handleAll_view (fun bar => (market bar).recording_readAs) rule budget bars s.1.unasked s.2

theorem handleAll_append (done bars : List (Candle α)) (s : Live α β κ × ρ) :
    handleAll rule budget market (done ++ bars) s =
      handleAll rule budget market bars (handleAll rule budget market done s) := by
  simp only [handleAll, List.foldl_append]

theorem calls_append (done bars : List (Candle α)) (s : Live α β κ × ρ) :
    calls rule budget market (done ++ bars) s =
      calls rule budget market done s ++
        calls rule budget market bars (handleAll rule budget market done s) := by
  rw [handleAll_recording rule budget market done s]
  simp only [calls, handleAll_append]
  generalize handleAll rule budget (fun bar => (market bar).recording) done (s.1.unasked, s.2) = v
  obtain ⟨⟨b, ⟨k, earlier⟩, current⟩, r⟩ := v
  -- the later bars are handled as if nothing had been recorded, with the earlier calls in front
  have hstart : (unasked ⟨b, k, current⟩).view (Exchange.preceded earlier) =
      (⟨b, (k, earlier), current⟩ : Live α β (κ × List (Exchange.Call α))) := by
    simp only [view, unasked, Exchange.preceded, List.append_nil]
  have hview := handleAll_view
    (fun bar => (market bar).recording_readAs_preceded earlier) rule budget bars
    (unasked ⟨b, k, current⟩) r
  rw [hstart] at hview
  rw [hview]
  rfl

end Recordings

end Live

end Crossover

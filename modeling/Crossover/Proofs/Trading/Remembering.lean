import Mathlib.Data.List.Induction
import Crossover.Proofs.Trading.ExchangeCalls

/-!
# Open positions are not forgotten

Whatever an exchange answers, a live trader gives up its copy of an open position only after the
exchange has filled the order that closes it and then confirmed the close. A failed attempt
leaves the copy as it was, or with a position that was looked up and is open, or leaves none.
-/

namespace Crossover

variable {α β κ ρ : Type}

/-- Among the calls is the order that closes the position, filled, and right after it the close,
confirmed. -/
def Position.ClosedBy (calls : List (Exchange.Call α)) (p : Position α) : Prop :=
  ∃ opening o reply, p.orders = [opening] ∧
    [.ordering ⟨p.id, opening.quantity, p.side.opposite⟩ (.ok o), .closing p.id (.ok reply)] <:+:
      calls

theorem Position.ClosedBy.mono {calls calls' : List (Exchange.Call α)} {p : Position α}
    (h : p.ClosedBy calls) (hwithin : calls <:+: calls') : p.ClosedBy calls' := by
  obtain ⟨opening, o, reply, horders, hcalls⟩ := h
  exact ⟨opening, o, reply, horders, hcalls.trans hwithin⟩

namespace Live

section Attempts

/-- What can become of the copy in an attempt that makes these calls and ends so. -/
inductive Keeping {ω : Type} (before : Option (Position α)) (calls : List (Exchange.Call α))
    (result : Except (Failure α) ω) (after : Option (Position α)) : Prop
  | kept : after = before → Keeping before calls result after
  | recovered {p : Position α} {f : Failure α} : before = none → p.isOpen = true →
      .lookup (.ok (some p)) ∈ calls → result = .error f → after = some p →
      Keeping before calls result after
  | dropped : (∀ p, before = some p → p.isOpen = true → p.ClosedBy calls) → after = none →
      Keeping before calls result after
  | created {p : Position α} {new : NewPosition} {quantity : α} {x : ω} :
      (∀ p, before = some p → p.isOpen = true → p.ClosedBy calls) →
      .creation new quantity (.ok p) ∈ calls → result = .ok x → after = some p →
      Keeping before calls result after

variable (budget : Budget α β) (exchange : Exchange α κ) (candle : Candle α)
  (s : Live α β (κ × List (Exchange.Call α)))

/-- A close that fails leaves the copy, and one that does not fail ends with the two calls that
close the position. -/
theorem keeping_closeTracked (p : Position α) :
    (∃ f, (closeTracked budget exchange.recording candle p s).result = .error f ∧
        (closeTracked budget exchange.recording candle p s).state.current = s.current ∧
        s.exchange.2 <+: (closeTracked budget exchange.recording candle p s).state.exchange.2) ∨
      ∃ reply, (closeTracked budget exchange.recording candle p s).result = .ok reply ∧
        (closeTracked budget exchange.recording candle p s).state.current = none ∧
        p.ClosedBy (closeTracked budget exchange.recording candle p s).state.exchange.2 := by
  rcases hb : budget.bookClose s.budget p.side p.status candle with ⟨f | quantity, b⟩
  · rw [closeTracked_refused hb]
    exact .inl ⟨f, rfl, rfl, List.prefix_rfl⟩
  rcases hclosing : p.closingOrder with fault | closing
  · rw [closeTracked_miscounted hb hclosing]
    exact .inl ⟨.ofFault fault, rfl, rfl, List.prefix_rfl⟩
  obtain ⟨opening, horders, -⟩ := Position.closingOrder_eq_ok hclosing
  rcases hcall : exchange.order s.exchange.1 ⟨p.id, opening.quantity, p.side.opposite⟩ with
    ⟨f | o, k⟩
  · rw [closeTracked_unordered hb horders (exchange.recording_order s.exchange hcall)]
    exact .inl ⟨f, rfl, rfl, List.prefix_append _ _⟩
  rcases hcall' : exchange.close k p.id with ⟨f | reply, k'⟩
  · rw [closeTracked_unclosed hb horders (exchange.recording_order s.exchange hcall)
      (exchange.recording_close (_, _) hcall')]
    refine .inl ⟨f, rfl, rfl, ?_⟩
    exact (List.prefix_append _ _).trans (List.prefix_append _ _)
  · rw [closeTracked_done hb horders (exchange.recording_order s.exchange hcall)
      (exchange.recording_close (_, _) hcall')]
    refine .inr ⟨reply, rfl, rfl, opening, o, reply, horders, ?_⟩
    rw [List.append_assoc]
    exact (List.suffix_append _ _).isInfix

theorem keeping_close_tracked {p : Position α} (hp : s.current = some p) :
    (∃ f, (close budget exchange.recording candle s).result = .error f ∧
        (close budget exchange.recording candle s).state.current = some p) ∨
      ∃ reply, (close budget exchange.recording candle s).result = .ok reply ∧
        (close budget exchange.recording candle s).state.current = none ∧
        (p.isOpen = true →
          p.ClosedBy (close budget exchange.recording candle s).state.exchange.2) := by
  by_cases hopen : p.isOpen = true
  · rw [close_tracked hp hopen]
    rcases keeping_closeTracked budget exchange candle s p with
      ⟨f, hresult, hcurrent, -⟩ | ⟨reply, hresult, hcurrent, hclosed⟩
    · exact .inl ⟨f, hresult, hcurrent.trans hp⟩
    · exact .inr ⟨reply, hresult, hcurrent, fun _ => hclosed⟩
  · have hclose : close budget exchange.recording candle s =
        ⟨{ s with current := none }, [.alreadyClosed p.id], .ok none⟩ := by
      simp only [close, closeCurrent, hp, hopen]
      rfl
    rw [hclose]
    exact .inr ⟨none, rfl, rfl, fun h => absurd h hopen⟩

theorem keeping_close_untracked (hnone : s.current = none) :
    Keeping s.current (close budget exchange.recording candle s).state.exchange.2
      (close budget exchange.recording candle s).result
      (close budget exchange.recording candle s).state.current := by
  rcases hcall : exchange.newest s.exchange.1 with ⟨f | newest, k⟩
  · rw [close_unseen hnone (exchange.recording_newest s.exchange hcall)]
    exact .kept rfl
  rw [close_seen hnone (exchange.recording_newest s.exchange hcall)]
  cases hfilter : newest.filter Position.isOpen with
  | none => exact .kept hnone.symm
  | some p =>
      obtain ⟨rfl, hopen⟩ := Option.filter_eq_some_iff.mp hfilter
      rw [closeCurrent_open rfl hopen]
      rcases keeping_closeTracked budget exchange candle
          { s with
            exchange := (k, s.exchange.2 ++ [.lookup (.ok (some p))])
            current := some p } p with
        ⟨f, hresult, hcurrent, hcalls⟩ | ⟨reply, -, hcurrent, -⟩
      · have hrecorded : Exchange.Call.lookup (.ok (some p)) ∈
            s.exchange.2 ++ [Exchange.Call.lookup (.ok (some p))] :=
          List.mem_append_right _ (List.mem_singleton_self _)
        exact .recovered hnone hopen (hcalls.subset hrecorded) hresult hcurrent
      · refine .dropped (fun q hq => ?_) hcurrent
        rw [hnone] at hq
        cases hq

theorem keeping_close :
    Keeping s.current (close budget exchange.recording candle s).state.exchange.2
      (close budget exchange.recording candle s).result
      (close budget exchange.recording candle s).state.current := by
  cases hp : s.current with
  | none => exact hp ▸ keeping_close_untracked budget exchange candle s hp
  | some p =>
      rcases keeping_close_tracked budget exchange candle s hp with
        ⟨f, -, hcurrent⟩ | ⟨reply, -, hcurrent, hclosed⟩
      · exact .kept hcurrent
      · exact .dropped (fun q hq => Option.some.inj hq ▸ hclosed) hcurrent

/-- A creation that fails leaves the copy, and one that does not fail replaces it. -/
theorem keeping_create (side : Side) :
    s.exchange.2 <+: (create budget exchange.recording side candle s).state.exchange.2 ∧
      ((create budget exchange.recording side candle s).state.current = s.current ∨
        ∃ p new quantity,
          (create budget exchange.recording side candle s).result = .ok (some p) ∧
          (create budget exchange.recording side candle s).state.current = some p ∧
          .creation new quantity (.ok p) ∈
            (create budget exchange.recording side candle s).state.exchange.2) := by
  rcases hb : budget.bookOpen s.budget side candle with ⟨f | quantity, b⟩
  · rw [create_refused hb]
    exact ⟨List.prefix_rfl, .inl rfl⟩
  rcases hcall : exchange.create s.exchange.1 (wanted side candle) quantity with ⟨f | p, k⟩
  · rw [create_failed hb (exchange.recording_create s.exchange hcall)]
    exact ⟨List.prefix_append _ _, .inl rfl⟩
  · rw [create_done hb (exchange.recording_create s.exchange hcall)]
    exact ⟨List.prefix_append _ _, .inr ⟨p, wanted side candle, quantity, rfl, rfl, by simp⟩⟩

theorem keeping_openPosition (side : Side) :
    Keeping s.current (openPosition budget exchange.recording side candle s).state.exchange.2
      (openPosition budget exchange.recording side candle s).result
      (openPosition budget exchange.recording side candle s).state.current := by
  cases hp : s.current with
  | none =>
      rw [openPosition_idle hp]
      rcases keeping_create budget exchange candle s side with
        ⟨-, hcurrent | ⟨p, new, quantity, hresult, hcurrent, hmem⟩⟩
      · exact .kept (hcurrent.trans hp)
      · exact .created (fun q hq => nomatch hq) hmem hresult hcurrent
  | some p =>
      rcases keeping_close_tracked budget exchange candle s hp with
        ⟨f, hresult, hcurrent⟩ | ⟨reply, hresult, hcurrent, hclosed⟩
      · obtain ⟨hstate, hresult'⟩ := openPosition_refused side hp hresult
        rw [hstate, hresult']
        exact .kept hcurrent
      · obtain ⟨hstate, hresult'⟩ := openPosition_closed side hp hresult
        rw [hstate, hresult']
        obtain ⟨hcalls, hafter⟩ := keeping_create budget exchange candle
          (close budget exchange.recording candle s).state side
        have hclosed' : ∀ q, some p = some q → q.isOpen = true → q.ClosedBy
            (create budget exchange.recording side candle
              (close budget exchange.recording candle s).state).state.exchange.2 := by
          intro q hq hopen
          obtain rfl := Option.some.inj hq
          exact (hclosed hopen).mono hcalls.isInfix
        rcases hafter with hsame | ⟨p', new, quantity, hok, hnow, hmem⟩
        · exact .dropped hclosed' (hsame.trans hcurrent)
        · exact .created hclosed' hmem hok hnow

theorem keeping_attempt (side : Side) (action : Action) :
    Keeping s.current (attempt budget exchange.recording side action candle s).state.exchange.2
      (attempt budget exchange.recording side action candle s).result
      (attempt budget exchange.recording side action candle s).state.current := by
  cases action with
  | openPosition => exact keeping_openPosition budget exchange candle s side
  | closePosition => exact keeping_close budget exchange candle s

end Attempts

section Steps

/-- The attempt of a step failed: the step failed with it, or it was skipped. -/
def Turn.Failed {ω : Type} (t : Turn α β κ ω) : Prop :=
  (∃ f, t.result = .error f) ∨
    ∃ side action price f, Note.skipped side action price f ∈ t.notes

variable (rule : Rule α ρ) (budget : Budget α β) (exchange : Exchange α κ)

section Reports

variable (candle : Candle α) (s : Live α β κ)

theorem notes_closeTracked (p : Position α) :
    (closeTracked budget exchange candle p s).notes = [] := by
  unfold closeTracked
  grind

theorem notes_create (side : Side) : (create budget exchange side candle s).notes = [] := by
  unfold create
  grind

/-- An attempt reports what it does, and leaves it to the step to report a failure. -/
theorem skipped_notMem_close {side : Side} {action : Action} {price : α} {f : Failure α} :
    Note.skipped side action price f ∉ (close budget exchange candle s).notes := by
  unfold close closeCurrent
  have htracked := notes_closeTracked budget exchange candle
  grind

theorem skipped_notMem_attempt (side' : Side) (action' : Action) {side : Side} {action : Action}
    {price : α} {f : Failure α} :
    Note.skipped side action price f ∉ (attempt budget exchange side' action' candle s).notes := by
  have hclose := @skipped_notMem_close _ _ _ budget exchange candle s side action price f
  have hcreate := notes_create budget exchange candle
  unfold attempt openPosition
  grind

/-- A step that failed or was skipped is one whose attempt failed. -/
theorem failed_handle {r : ρ} (h : (handle rule budget exchange candle (s, r)).1.Failed) :
    ∃ side action f, (rule.advise r candle).1 = .advice side action ∧
      (attempt budget exchange side action candle s).result = .error f := by
  have hturn : (follow budget exchange (rule.advise r candle).1 candle s).Failed := by
    rcases h with ⟨f, hresult⟩ | ⟨side, action, price, f, hmem⟩
    · exact .inl ⟨f, hresult⟩
    · refine .inr ⟨side, action, price, f, ?_⟩
      rcases List.mem_append.mp hmem with hremark | hnote
      · obtain ⟨remark, -, hnote⟩ := List.mem_map.mp hremark
        cases hnote
      · exact hnote
  cases hsignal : (rule.advise r candle).1 with
  | hold =>
      rw [hsignal] at hturn
      rcases hturn with ⟨f, hresult⟩ | ⟨_, _, _, _, hmem⟩
      · cases hresult
      · cases hmem
  | advice side action =>
      rw [hsignal] at hturn
      refine ⟨side, action, ?_⟩
      rcases hattempt : (attempt budget exchange side action candle s).result with f | reply
      · exact ⟨f, rfl, rfl⟩
      · have hok : Failure.forgiven (attempt budget exchange side action candle s).result =
            .ok () := by
          rw [hattempt]
          rfl
        rcases hturn with ⟨f, hresult⟩ | ⟨side', action', price, f, hmem⟩
        · rw [follow, act_result, hok] at hresult
          cases hresult
        · rw [follow, act_eq_judged] at hmem
          have hquiet := @skipped_notMem_attempt _ _ _ budget exchange candle s side action side'
            action' price f
          unfold Turn.judged at hmem
          rw [hattempt] at hmem
          cases reply with
          | none => exact absurd hmem hquiet
          | some p => simp [hquiet] at hmem

end Reports

/-- What a step keeps of the copy: an open position is still tracked, or was closed by the calls
of the step; and if the attempt failed, the copy is as before, or there is none, or it is of an
open position that was just looked up. -/
structure KeepsCopy (bar : Candle α) (s : Live α β κ × ρ) : Prop where
  ofOpen : ∀ p, s.1.current = some p → p.isOpen = true →
    (handle rule budget exchange bar s).1.state.current = some p ∨
      p.ClosedBy (calls rule budget (fun _ => exchange) [bar] s)
  onFailure : (handle rule budget exchange bar s).1.Failed →
    (handle rule budget exchange bar s).1.state.current = s.1.current ∨
      (handle rule budget exchange bar s).1.state.current = none ∨
      ∃ p, (handle rule budget exchange bar s).1.state.current = some p ∧ p.isOpen = true ∧
        .lookup (.ok (some p)) ∈ calls rule budget (fun _ => exchange) [bar] s

theorem keepsCopy (bar : Candle α) (s : Live α β κ × ρ) :
    KeepsCopy rule budget exchange bar s := by
  obtain ⟨s, r⟩ := s
  have hview := handle_view exchange.recording_readAs budget bar s.unasked rule r
  have hcurrent : (handle rule budget exchange bar (s, r)).1.state.current =
      (handle rule budget exchange.recording bar (s.unasked, r)).1.state.current :=
    congrArg (fun t => t.1.state.current) hview
  have hattempt (side : Side) (action : Action) :
      (attempt budget exchange side action bar s).result =
        (attempt budget exchange.recording side action bar s.unasked).result :=
    congrArg Turn.result
      (attempt_view exchange.recording_readAs budget bar s.unasked side action)
  -- the step leaves the state of the attempt, if there is one
  have hkeeping : ∀ side action, (rule.advise r bar).1 = .advice side action →
      Keeping s.current (calls rule budget (fun _ => exchange) [bar] (s, r))
        (attempt budget exchange side action bar s).result
        (handle rule budget exchange bar (s, r)).1.state.current := by
    intro side action hsignal
    have hstate : (handle rule budget exchange.recording bar (s.unasked, r)).1.state =
        (attempt budget exchange.recording side action bar s.unasked).state := by
      rw [handle_state, hsignal, follow, act_state]
    have hcalls : calls rule budget (fun _ => exchange) [bar] (s, r) =
        (handle rule budget exchange.recording bar (s.unasked, r)).1.state.exchange.2 := rfl
    rw [hcurrent, hcalls, hattempt, hstate]
    exact keeping_attempt budget exchange bar s.unasked side action
  constructor
  · intro p hp hopen
    cases hsignal : (rule.advise r bar).1 with
    | hold =>
        left
        rw [handle_state, hsignal]
        exact hp
    | advice side action =>
        cases hkeeping side action hsignal with
        | kept hafter => exact .inl (hafter.trans hp)
        | recovered hnone => exact absurd (hp.symm.trans hnone) (by simp)
        | dropped hclosed _ => exact .inr (hclosed p hp hopen)
        | created hclosed _ _ _ => exact .inr (hclosed p hp hopen)
  · intro hfailed
    obtain ⟨side, action, f, hsignal, hresult⟩ := failed_handle rule budget exchange bar s hfailed
    cases hkeeping side action hsignal with
    | kept hafter => exact .inl hafter
    | recovered _ hopen hlookup _ hafter => exact .inr (.inr ⟨_, hafter, hopen, hlookup⟩)
    | dropped _ hafter => exact .inr (.inl hafter)
    | created _ _ hok _ =>
        rw [hresult] at hok
        cases hok

/-- Over any bars, whatever the exchange answers and whichever steps fail, an open position that
the trader tracks stays tracked until the exchange has filled its closing order and confirmed the
close; and so it is at each further bar. -/
theorem open_position_never_forgotten (bars : List (Candle α)) (s : Live α β κ × ρ) :
    (∀ p, s.1.current = some p → p.isOpen = true →
      (handleAll rule budget (fun _ => exchange) bars s).1.current = some p ∨
        p.ClosedBy (calls rule budget (fun _ => exchange) bars s)) ∧
    ∀ bar, KeepsCopy rule budget exchange bar
      (handleAll rule budget (fun _ => exchange) bars s) := by
  refine ⟨fun p hp hopen => ?_, fun bar => keepsCopy rule budget exchange bar _⟩
  -- split at the last bar: the calls of the run so far stand in front of those of the last step
  induction bars using List.reverseRecOn with
  | nil => exact .inl hp
  | append_singleton bars bar ih =>
      rw [calls_append, handleAll_append]
      rcases ih with htracked | hclosed
      · rcases (keepsCopy rule budget exchange bar _).ofOpen p htracked hopen with hkept | hclosed
        · exact .inl hkept
        · exact .inr (hclosed.mono (List.suffix_append _ _).isInfix)
      · exact .inr (hclosed.mono (List.prefix_append _ _).isInfix)

/-- A position is opened, and the order that is to close it is refused: the copy is kept, and the
next bar closes the position. -/
theorem copy_kept_when_order_refused :
    let exchange := mishapExchange (.outside .transport "refused" [])
    let s := (start ⟨1000, 1000, 1⟩ (.ofPositions [] fun _ => (1 : Rat), [.kept, .refused]),
      [.advice .buy .openPosition, .advice .buy .closePosition, .advice .buy .closePosition])
    let after := handleAll (.reciting Rat) (fixedBudget Rat) fun _ => exchange
    (after [.blank, .blank] s).1.current.map Position.id = some "n1" ∧
      (after [.blank, .blank, .blank] s).1.current.map Position.id = none ∧
      ∀ bar, KeepsCopy (.reciting Rat) (fixedBudget Rat) exchange bar (after [.blank, .blank] s) :=
  ⟨by decide +kernel, by decide +kernel,
    (open_position_never_forgotten _ _ _ [.blank, .blank] _).2⟩

end Steps

end Live

end Crossover

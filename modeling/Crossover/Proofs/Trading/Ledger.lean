import Crossover.Proofs.Trading.Attempt

/-!
# The ledger in order

A ledger is in order when all its positions are closed, each with an opening and a closing order
that mirror each other, but possibly the last one, which then is open and holds its opening
order alone. While the ledger is in order, an advice can bring about one of five things; they are
listed once, with the calls to the budget and what becomes of the ledger. So the simulated trader
keeps its ledger in order whatever the budget answers, and no step fails but by an answer of the
budget.
-/

namespace Crossover

variable {α β ρ : Type}

namespace Position

/-- An open position with its opening order alone. -/
structure Opened (p : Position α) : Prop where
  isOpen : p.isOpen = true
  orders : ∃ o, p.orders = [o] ∧ o.side = p.side ∧ o.positionId = p.id

/-- A closed position whose closing order mirrors its opening order. -/
structure Settled (p : Position α) : Prop where
  isClosed : p.isOpen = false
  orders : ∃ o o', p.orders = [o, o'] ∧ o.side = p.side ∧ o.positionId = p.id ∧
    o'.side = p.side.opposite ∧ o'.quantity = o.quantity ∧ o'.symbolId = o.symbolId ∧
    o'.kind = o.kind ∧ o'.positionId = p.id

theorem isOpen_iff {p : Position α} : p.isOpen = true ↔ p.status = .opened := by
  simp [isOpen]

theorem closingOrder_singleton {p : Position α} {o : Order α} (h : p.orders = [o]) :
    p.closingOrder = .ok { o with side := p.side.opposite } := by
  simp [closingOrder, h]

theorem closingOrder_eq_ok {p : Position α} {o : Order α} (h : p.closingOrder = .ok o) :
    ∃ opening, p.orders = [opening] ∧ o = { opening with side := p.side.opposite } := by
  unfold closingOrder at h
  split at h
  · next opening horders => exact ⟨opening, horders, (Except.ok.inj h).symm⟩
  · cases h

theorem closingOrder_eq_error {p : Position α} {f : Fault α} (h : p.closingOrder = .error f) :
    p.orders.length ≠ 1 ∧ f = .orderCount 1 p.orders.length := by
  unfold closingOrder at h
  split at h
  · cases h
  · next hne =>
    refine ⟨fun hlength => ?_, (Except.error.inj h).symm⟩
    obtain ⟨o, ho⟩ := List.length_eq_one_iff.mp hlength
    exact hne o ho

end Position

/-- The failures with which a budget answers. -/
inductive Budget.Refuses (budget : Budget α β) (f : Failure α) : Prop
  | opening {b : β} {side : Side} {candle : Candle α} :
      (budget.bookOpen b side candle).1 = .error f → Refuses budget f
  | closing {b : β} {side : Side} {status : Status} {candle : Candle α} :
      (budget.bookClose b side status candle).1 = .error f → Refuses budget f

theorem Balances.lotUnlessDry_error [Scalar α] {b : Balances α} {f : Failure α}
    (h : b.lotUnlessDry = .error f) : f.isRecoverable = true := by
  unfold lotUnlessDry at h
  split at h
  · rw [← Except.error.inj h]
    rfl
  · cases h

/-- A fixed budget refuses for lack of funds, or because the position is closed. -/
theorem fixedBudget_refuses [Scalar α] {f : Failure α} (h : (fixedBudget α).Refuses f) :
    f.isRecoverable = true := by
  cases h with
  | opening hb => exact Balances.lotUnlessDry_error hb
  | @closing b side status candle hb =>
      cases status with
      | opened => exact Balances.lotUnlessDry_error hb
      | closed =>
          rw [← Except.error.inj hb]
          rfl

namespace Simulated

/-- Closed positions, and possibly an open one behind them. -/
inductive InOrder : List (Position α) → Prop
  | resting {settled : List (Position α)} : (∀ p ∈ settled, p.Settled) → InOrder settled
  | holding {ledger settled : List (Position α)} {p : Position α} :
      ledger = settled ++ [p] → (∀ q ∈ settled, q.Settled) → p.Opened → InOrder ledger

def closedAt (p : Position α) (opening : Order α) (candle : Candle α) : Position α :=
  p.close (fillClosing p { opening with side := p.side.opposite } candle)

theorem opened_newPosition (index : Nat) (side : Side) (quantity : α) (candle : Candle α) :
    (newPosition index side quantity candle).Opened where
  isOpen := rfl
  orders := ⟨openingOrder (positionId index) side quantity candle, rfl, rfl, rfl⟩

theorem settled_closedAt {p : Position α} {o : Order α} (ho : p.orders = [o])
    (hside : o.side = p.side) (hid : o.positionId = p.id) (candle : Candle α) :
    (closedAt p o candle).Settled where
  isClosed := rfl
  orders := ⟨o, fillClosing p { o with side := p.side.opposite } candle,
    by simp [closedAt, Position.close, ho], hside, hid, rfl, rfl, rfl, rfl, hid⟩

section Steps

variable {s : Simulated α β} {settled : List (Position α)} {p : Position α} {o : Order α}

theorem current?_resting (h : ∀ p ∈ s.ledger, p.isOpen = false) : s.current? = none := by
  unfold current?
  cases hlast : s.ledger.getLast? with
  | none => rfl
  | some p => simp [Option.filter, h p (List.mem_of_getLast? hlast)]

theorem current?_holding (hl : s.ledger = settled ++ [p]) (h : p.isOpen = true) :
    s.current? = some p := by
  simp [current?, hl, Option.filter, h]

variable [Scalar α] {budget : Budget α β} {candle : Candle α}

theorem close_resting (h : ∀ p ∈ s.ledger, p.isOpen = false) :
    close budget candle s = ⟨s, [.nothingOpen], .ok ()⟩ := by
  simp [close, current?_resting h]

theorem close_holding (hl : s.ledger = settled ++ [p]) (hopen : p.isOpen = true)
    (ho : p.orders = [o]) :
    close budget candle s =
      match budget.bookClose s.budget p.side p.status candle with
      | (.error f, b) => ⟨{ s with budget := b }, [], .error f⟩
      | (.ok _, b) =>
        ⟨⟨b, settled ++ [closedAt p o candle]⟩,
          [.closed p.id p.side candle.closePrice (closedAt p o candle).profit b], .ok ()⟩ := by
  unfold close
  simp only [current?_holding hl hopen, Position.closingOrder_singleton ho, hl,
    List.dropLast_concat]
  rfl

omit [Scalar α] in
theorem append_refused {side : Side} {f : Failure α} {b : β}
    (hb : budget.bookOpen s.budget side candle = (.error f, b)) :
    append budget side candle s = ⟨{ s with budget := b }, [], .error f⟩ := by
  simp only [append, hb]

omit [Scalar α] in
theorem append_done {side : Side} {quantity : α} {b : β}
    (hb : budget.bookOpen s.budget side candle = (.ok quantity, b)) :
    append budget side candle s =
      ⟨⟨b, s.ledger ++ [newPosition s.ledger.length side quantity candle]⟩,
        [.opened (positionId s.ledger.length) side candle.closePrice quantity b], .ok ()⟩ := by
  simp only [append, hb]
  rfl

theorem openPosition_resting (side : Side) (h : s.current? = none) :
    openPosition budget side candle s = append budget side candle s := by
  simp only [openPosition, h]

theorem openPosition_refused (side : Side) {p : Position α} {f : Failure α}
    (h : s.current? = some p) (hclose : (close budget candle s).result = .error f) :
    (openPosition budget side candle s).state = (close budget candle s).state ∧
      (openPosition budget side candle s).result = .error f := by
  simp only [openPosition, h, hclose, and_self]

theorem openPosition_closed (side : Side) {p : Position α} (h : s.current? = some p)
    (hclose : (close budget candle s).result = .ok ()) :
    (openPosition budget side candle s).state =
        (append budget side candle (close budget candle s).state).state ∧
      (openPosition budget side candle s).result =
        (append budget side candle (close budget candle s).state).result := by
  simp only [openPosition, h, hclose, and_self]

end Steps

/-- A ledger that ends with an open position, behind nothing but closed ones. -/
structure Holds (ledger settled : List (Position α)) (p : Position α) (o : Order α) : Prop where
  ledger : ledger = settled ++ [p]
  settled : ∀ q ∈ settled, q.Settled
  isOpen : p.isOpen = true
  orders : p.orders = [o]
  side : o.side = p.side
  positionId : o.positionId = p.id

namespace Holds

variable {ledger settled : List (Position α)} {p : Position α} {o : Order α}

theorem opened (h : Holds ledger settled p o) : p.Opened :=
  ⟨h.isOpen, o, h.orders, h.side, h.positionId⟩

theorem status (h : Holds ledger settled p o) : p.status = .opened :=
  Position.isOpen_iff.mp h.isOpen

theorem settled_close (h : Holds ledger settled p o) (candle : Candle α) :
    ∀ q ∈ settled ++ [closedAt p o candle], q.Settled := by
  intro q hq
  rcases List.mem_append.mp hq with hq | hq
  · exact h.settled q hq
  · rw [List.mem_singleton.mp hq]
    exact settled_closedAt h.orders h.side h.positionId candle

end Holds

theorem InOrder.settled_or_holds {ledger : List (Position α)} (h : InOrder ledger) :
    (∀ p ∈ ledger, p.Settled) ∨ ∃ settled p o, Holds ledger settled p o := by
  cases h with
  | resting hall => exact .inl hall
  | @holding settled p hl hall hp =>
      obtain ⟨o, ho, hside, hid⟩ := hp.orders
      exact .inr ⟨settled, p, o, hl, hall, hp.isOpen, ho, hside, hid⟩

/-- The budget is asked to close the open position, and if it agrees the ledger follows. -/
inductive Closes (budget : Budget α β) (candle : Candle α) (s : Simulated α β) :
    Except (Failure α) Unit → Simulated α β → Prop
  | refused {settled : List (Position α)} {p : Position α} {o : Order α} {f : Failure α} {b : β} :
      Holds s.ledger settled p o →
      budget.bookClose s.budget p.side .opened candle = (.error f, b) →
      Closes budget candle s (.error f) ⟨b, s.ledger⟩
  | done {settled : List (Position α)} {p : Position α} {o : Order α} {quantity : α} {b : β} :
      Holds s.ledger settled p o →
      budget.bookClose s.budget p.side .opened candle = (.ok quantity, b) →
      Closes budget candle s (.ok ()) ⟨b, settled ++ [closedAt p o candle]⟩

/-- With nothing open, the budget is asked to open a position, and if it agrees the ledger
follows. -/
inductive Opens (budget : Budget α β) (side : Side) (candle : Candle α) (s : Simulated α β) :
    Except (Failure α) Unit → Simulated α β → Prop
  | refused {f : Failure α} {b : β} : (∀ p ∈ s.ledger, p.Settled) →
      budget.bookOpen s.budget side candle = (.error f, b) →
      Opens budget side candle s (.error f) ⟨b, s.ledger⟩
  | done {quantity : α} {b : β} : (∀ p ∈ s.ledger, p.Settled) →
      budget.bookOpen s.budget side candle = (.ok quantity, b) →
      Opens budget side candle s (.ok ())
        ⟨b, s.ledger ++ [newPosition s.ledger.length side quantity candle]⟩

/-- All that an advice can bring about while the ledger is in order. -/
inductive Attempts (budget : Budget α β) (side : Side) (candle : Candle α) (s : Simulated α β) :
    Action → Except (Failure α) Unit → Simulated α β → Prop
  | nothing : (∀ p ∈ s.ledger, p.Settled) →
      Attempts budget side candle s .closePosition (.ok ()) s
  | closes {r : Except (Failure α) Unit} {t : Simulated α β} : Closes budget candle s r t →
      Attempts budget side candle s .closePosition r t
  | opens {r : Except (Failure α) Unit} {t : Simulated α β} : Opens budget side candle s r t →
      Attempts budget side candle s .openPosition r t
  | unclosed {f : Failure α} {t : Simulated α β} : Closes budget candle s (.error f) t →
      Attempts budget side candle s .openPosition (.error f) t
  | reopens {r : Except (Failure α) Unit} {t u : Simulated α β} :
      Closes budget candle s (.ok ()) t → Opens budget side candle t r u →
      Attempts budget side candle s .openPosition r u

namespace Closes

variable {budget : Budget α β} {candle : Candle α} {s t : Simulated α β}
  {r : Except (Failure α) Unit}

theorem inOrder (h : Closes budget candle s r t) : InOrder t.ledger := by
  cases h with
  | refused hs _ => exact .holding hs.ledger hs.settled hs.opened
  | done hs _ => exact .resting (hs.settled_close candle)

theorem settled (h : Closes budget candle s (.ok ()) t) : ∀ p ∈ t.ledger, p.Settled := by
  cases h with
  | done hs _ => exact hs.settled_close candle

theorem refuses {f : Failure α} (h : Closes budget candle s (.error f) t) : budget.Refuses f := by
  cases h with
  | refused _ hb => exact .closing (congrArg Prod.fst hb)

end Closes

namespace Opens

variable {budget : Budget α β} {side : Side} {candle : Candle α} {s t : Simulated α β}
  {r : Except (Failure α) Unit}

theorem inOrder (h : Opens budget side candle s r t) : InOrder t.ledger := by
  cases h with
  | refused hs _ => exact .resting hs
  | done hs _ => exact .holding rfl hs (opened_newPosition ..)

theorem refuses {f : Failure α} (h : Opens budget side candle s (.error f) t) :
    budget.Refuses f := by
  cases h with
  | refused _ hb => exact .opening (congrArg Prod.fst hb)

end Opens

namespace Attempts

variable {budget : Budget α β} {side : Side} {action : Action} {candle : Candle α}
  {s t : Simulated α β} {r : Except (Failure α) Unit}

theorem inOrder (h : Attempts budget side candle s action r t) : InOrder t.ledger := by
  cases h with
  | nothing hs => exact .resting hs
  | closes hclose => exact hclose.inOrder
  | opens hopen => exact hopen.inOrder
  | unclosed hclose => exact hclose.inOrder
  | reopens _ hopen => exact hopen.inOrder

theorem refuses {f : Failure α} (h : Attempts budget side candle s action (.error f) t) :
    budget.Refuses f := by
  cases h with
  | closes hclose => exact hclose.refuses
  | opens hopen => exact hopen.refuses
  | unclosed hclose => exact hclose.refuses
  | reopens _ hopen => exact hopen.refuses

/-- What every closing and every opening keeps, every attempt keeps. -/
theorem preserves {P : Simulated α β → Prop} (h : Attempts budget side candle s action r t)
    (hclose : ∀ {s r t}, P s → Closes budget candle s r t → P t)
    (hopen : ∀ {s r t}, P s → Opens budget side candle s r t → P t) (hs : P s) : P t := by
  cases h with
  | nothing _ => exact hs
  | closes hc => exact hclose hs hc
  | opens ho => exact hopen hs ho
  | unclosed hc => exact hclose hs hc
  | reopens hc ho => exact hopen (hclose hs hc) ho

end Attempts

theorem opens_append (budget : Budget α β) (side : Side) (candle : Candle α)
    {s : Simulated α β} (h : ∀ p ∈ s.ledger, p.Settled) :
    Opens budget side candle s (append budget side candle s).result
      (append budget side candle s).state := by
  rcases hb : budget.bookOpen s.budget side candle with ⟨f | quantity, b⟩
  · rw [append_refused hb]
    exact .refused h hb
  · rw [append_done hb]
    exact .done h hb

section Attempting

variable [Scalar α] (budget : Budget α β) (candle : Candle α) {s : Simulated α β}

theorem closes_close {settled : List (Position α)} {p : Position α} {o : Order α}
    (h : Holds s.ledger settled p o) :
    Closes budget candle s (close budget candle s).result (close budget candle s).state := by
  rw [close_holding h.ledger h.isOpen h.orders, h.status]
  rcases hb : budget.bookClose s.budget p.side .opened candle with ⟨f | quantity, b⟩
  · exact .refused h hb
  · exact .done h hb

theorem attempts_openPosition (side : Side) (h : InOrder s.ledger) :
    Attempts budget side candle s .openPosition (openPosition budget side candle s).result
      (openPosition budget side candle s).state := by
  rcases h.settled_or_holds with hall | ⟨settled, p, o, hs⟩
  · rw [openPosition_resting side (current?_resting fun p hp => (hall p hp).isClosed)]
    exact .opens (opens_append budget side candle hall)
  · have hcurrent := current?_holding hs.ledger hs.isOpen
    -- only a close that succeeds is followed by a call to open
    have hclose := closes_close budget candle hs
    cases hr : (close budget candle s).result with
    | error f =>
        obtain ⟨hstate, hresult⟩ := openPosition_refused side hcurrent hr
        rw [hstate, hresult]
        exact .unclosed (hr ▸ hclose)
    | ok _ =>
        obtain ⟨hstate, hresult⟩ := openPosition_closed side hcurrent hr
        rw [hstate, hresult]
        rw [hr] at hclose
        exact .reopens hclose (opens_append budget side candle hclose.settled)

theorem attempts_close (side : Side) (h : InOrder s.ledger) :
    Attempts budget side candle s .closePosition (close budget candle s).result
      (close budget candle s).state := by
  rcases h.settled_or_holds with hall | ⟨settled, p, o, hs⟩
  · rw [close_resting fun p hp => (hall p hp).isClosed]
    exact .nothing hall
  · exact .closes (closes_close budget candle hs)

/-- Every attempt on a ledger in order is one of those listed. -/
theorem attempts (side : Side) (action : Action) (h : InOrder s.ledger) :
    Attempts budget side candle s action (attempt budget side action candle s).result
      (attempt budget side action candle s).state := by
  cases action with
  | openPosition => exact attempts_openPosition budget candle side h
  | closePosition => exact attempts_close budget candle side h

/-- A step keeps the ledger in order, whatever the budget answers. -/
theorem inOrder_follow (signal : Signal) (h : InOrder s.ledger) :
    InOrder (follow budget signal candle s).state.ledger := by
  cases signal with
  | hold => exact h
  | advice side action =>
      rw [follow, act_state]
      exact (attempts budget candle side action h).inOrder

/-- A step with a fixed budget keeps the ledger in order and does not fail. -/
theorem handle_fixedBudget (rule : Rule α ρ) (r : ρ) {s : Simulated α (Balances α)}
    (h : InOrder s.ledger) :
    InOrder (handle rule (fixedBudget α) candle (s, r)).1.state.ledger ∧
      (handle rule (fixedBudget α) candle (s, r)).1.result = .ok () := by
  refine ⟨inOrder_follow (fixedBudget α) candle (rule.advise r candle).1 h, ?_⟩
  rw [handle_result]
  cases (rule.advise r candle).1 with
  | hold => rfl
  | advice side action =>
      rw [follow, act_result]
      refine Failure.forgiven_eq_ok fun f hf => fixedBudget_refuses ?_
      exact (hf ▸ attempts (fixedBudget α) candle side action h).refuses

end Attempting

section Runs

variable [Scalar α]

def handleAll (rule : Rule α ρ) (budget : Budget α β) (bars : List (Candle α))
    (s : Simulated α β × ρ) : Simulated α β × ρ :=
  bars.foldl (fun s bar => ((handle rule budget bar s).1.state, (handle rule budget bar s).2)) s

@[simp] theorem handleAll_nil (rule : Rule α ρ) (budget : Budget α β) (s : Simulated α β × ρ) :
    handleAll rule budget [] s = s := rfl

theorem handleAll_append (rule : Rule α ρ) (budget : Budget α β) (bars bars' : List (Candle α))
    (s : Simulated α β × ρ) :
    handleAll rule budget (bars ++ bars') s =
      handleAll rule budget bars' (handleAll rule budget bars s) :=
  List.foldl_append

/-- A run keeps the ledger in order, whatever the budget answers. -/
theorem inOrder_handleAll (rule : Rule α ρ) (budget : Budget α β) (bars : List (Candle α))
    {s : Simulated α β × ρ} (h : InOrder s.1.ledger) :
    InOrder (handleAll rule budget bars s).1.ledger := by
  induction bars generalizing s with
  | nil => exact h
  | cons bar bars ih => exact ih (inOrder_follow budget bar (rule.advise s.2 bar).1 h)

/-- What every closing and every opening keeps, every run keeps. -/
theorem handleAll_preserves (rule : Rule α ρ) {budget : Budget α β} {P : Simulated α β → Prop}
    (hclose : ∀ {candle s r t}, P s → Closes budget candle s r t → P t)
    (hopen : ∀ {side candle s r t}, P s → Opens budget side candle s r t → P t)
    (bars : List (Candle α)) {s : Simulated α β × ρ} (horder : InOrder s.1.ledger) (hs : P s.1) :
    P (handleAll rule budget bars s).1 := by
  induction bars generalizing s with
  | nil => exact hs
  | cons bar bars ih =>
      apply ih (inOrder_follow budget bar (rule.advise s.2 bar).1 horder)
      show P (follow budget (rule.advise s.2 bar).1 bar s.1).state
      cases (rule.advise s.2 bar).1 with
      | hold => exact hs
      | advice side action =>
          rw [follow, act_state]
          exact (attempts budget bar side action horder).preserves hclose hopen hs

end Runs

end Simulated

end Crossover

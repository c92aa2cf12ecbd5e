import Mathlib.Data.List.Forall2
import Crossover.Proofs.Trading.Dealings
import Crossover.Proofs.Trading.Stored

/-!
# Live and simulated trading agree

On an exchange that never fails, the live trader and the simulated one take the same decisions:
fed the same bars with the same rule and the same budget, they have equal budgets and positions
that mirror each other one by one. If orders are filled at the close of the bar, as the simulated
trader fills them, the profits are equal too. The exchange may fill differently from bar to bar,
so there is one for each.
-/

namespace Crossover

variable {α β κ ρ : Type}

/-- Two orders of the same side and quantity, the second filled at the close of a bar in which
the first was filled. -/
structure Order.Mirrors (fills : Candle α → Order α → Prop) (o o' : Order α) : Prop where
  side : o.side = o'.side
  quantity : o.quantity = o'.quantity
  filled : ∃ candle, fills candle o ∧ o'.price = candle.closePrice

namespace Position

structure Mirrors (fills : Candle α → Order α → Prop) (p q : Position α) : Prop where
  side : p.side = q.side
  status : p.status = q.status
  orders : List.Forall₂ (Order.Mirrors fills) p.orders q.orders

namespace Mirrors

variable {fills : Candle α → Order α → Prop} {p q : Position α}

theorem isOpen (h : p.Mirrors fills q) : p.isOpen = q.isOpen := by
  rw [Position.isOpen, Position.isOpen, h.status]

/-- Orders at the same prices make the same profit. -/
theorem profit [Scalar α] (h : p.Mirrors fills q)
    (hprice : ∀ candle o, fills candle o → o.price = candle.closePrice) :
    p.profit = q.profit := by
  have hsame : ∀ o o', Order.Mirrors fills o o' → o.price = o'.price := by
    rintro o o' ⟨-, -, candle, hfills, hclose⟩
    rw [hprice candle o hfills, hclose]
  obtain ⟨hside, hstatus, horders⟩ := h
  obtain ⟨_, _, side, status, _, _, _, orders⟩ := p
  obtain ⟨_, _, side', status', _, _, _, orders'⟩ := q
  subst hside hstatus
  cases horders with
  | nil => cases status <;> rfl
  | @cons o o' rest rest' ho hrest =>
  cases hrest with
  | nil => cases status <;> rfl
  | @cons u u' rest rest' hu hrest =>
  cases hrest with
  | cons _ _ => cases status <;> rfl
  | nil =>
      have hvalue : o.price * o.quantity = o'.price * o'.quantity := by
        rw [hsame o o' ho, ho.quantity]
      have hvalue' : u.price * u.quantity = u'.price * u'.quantity := by
        rw [hsame u u' hu, hu.quantity]
      cases status with
      | opened => rfl
      | closed => simp only [Position.profit, hvalue, hvalue']

/-- Both positions are closed with an order in the bar. -/
theorem close {opening opening' o : Order α} {candle : Candle α} (h : p.Mirrors fills q)
    (hp : p.orders = [opening]) (hq : q.orders = [opening'])
    (hcounters : Live.Counters (fills candle) p opening o) :
    (p.close o).Mirrors fills (Simulated.closedAt q opening' candle) := by
  have hopening : Order.Mirrors fills opening opening' := by
    have horders := h.orders
    rw [hp, hq] at horders
    cases horders with
    | cons hfirst _ => exact hfirst
  have hside : o.side = q.side.opposite := by rw [hcounters.side, h.side]
  have hquantity : o.quantity = opening'.quantity := hcounters.quantity.trans hopening.quantity
  have hclosing : Order.Mirrors fills o
      (Simulated.fillClosing q { opening' with side := q.side.opposite } candle) :=
    ⟨hside, hquantity, candle, hcounters.filled, rfl⟩
  refine ⟨h.side, rfl, ?_⟩
  show List.Forall₂ _ (p.orders ++ [o]) (q.orders ++ [_])
  rw [hp, hq]
  exact .cons hopening (.cons hclosing .nil)

end Mirrors

end Position

section Agreement

variable (fills : Candle α → Order α → Prop) (positions : κ → List (Position α))
  (old : List (Position α))

/-- The two traders have the same budget, and the positions the exchange has gained mirror the
ledger. Either nothing is open, or the last positions are, and the live trader keeps a copy. -/
inductive Agrees (live : Live α β κ) (sim : Simulated α β) : Prop
  | resting {gained : List (Position α)} : live.budget = sim.budget → live.current = none →
      positions live.exchange = old ++ gained →
      List.Forall₂ (Position.Mirrors fills) gained sim.ledger →
      (∀ q ∈ sim.ledger, q.isOpen = false) → Agrees live sim
  | holding {gained settled : List (Position α)} {p q : Position α} {o : Order α} :
      live.budget = sim.budget → live.current = some p →
      positions live.exchange = old ++ gained ++ [p] → sim.ledger = settled ++ [q] →
      List.Forall₂ (Position.Mirrors fills) gained settled →
      (∀ q' ∈ settled, q'.isOpen = false) → p.Mirrors fills q → q.isOpen = true →
      q.orders = [o] → Agrees live sim

/-- Two attempts that leave the traders in agreement and end alike. -/
structure Abreast {ω : Type} (t : Live.Turn α β κ ω) (t' : Simulated.Turn α β) : Prop where
  agrees : Agrees fills positions old t.state t'.state
  alike : t.result.map (fun _ => ()) = t'.result

/-- The live trader keeps a copy exactly if the last position of the ledger is open, and it is a
copy of the last position gained, which mirrors that one. -/
inductive CopiesLast (gained : List (Position α)) (live : Live α β κ) (sim : Simulated α β) : Prop
  | none : live.current = none → (∀ q, sim.ledger.getLast? = some q → q.isOpen = false) →
      CopiesLast gained live sim
  | some {p q : Position α} : live.current = some p → gained.getLast? = some p →
      sim.ledger.getLast? = some q → p.Mirrors fills q → q.isOpen = true →
      CopiesLast gained live sim

/-- What two steps have in common: neither fails, the budgets are equal, and the positions the
exchange has gained mirror the ledger, so that orders filled at the close of their bar make the
same profits. -/
structure DecideAlike [Scalar α] (t : Live.Turn α β κ Unit) (t' : Simulated.Turn α β) : Prop where
  liveOk : t.result = .ok ()
  simulatedOk : t'.result = .ok ()
  budget : t.state.budget = t'.state.budget
  ledger : ∃ gained, positions t.state.exchange = old ++ gained ∧
    List.Forall₂ (Position.Mirrors fills) gained t'.state.ledger ∧
    CopiesLast fills gained t.state t'.state ∧
    ((∀ candle o, fills candle o → o.price = candle.closePrice) →
      gained.map Position.profit = t'.state.ledger.map Position.profit)

end Agreement

section Steps

variable {fills : Candle α → Order α → Prop} {positions : κ → List (Position α)}
  {sound : κ → Prop} {old : List (Position α)} {exchange : Exchange α κ}
  {live : Live α β κ} {sim : Simulated α β}

theorem closed_of_mirrors {gained ledger : List (Position α)}
    (h : List.Forall₂ (Position.Mirrors fills) gained ledger)
    (hclosed : ∀ q ∈ ledger, q.isOpen = false) : ∀ p ∈ gained, p.isOpen = false := by
  induction h with
  | nil => exact fun p hp => nomatch hp
  | cons hpq _ ih =>
      intro p hp
      rcases List.mem_cons.mp hp with rfl | hp
      · rw [hpq.isOpen]
        exact hclosed _ List.mem_cons_self
      · exact ih (fun q hq => hclosed q (List.mem_cons_of_mem _ hq)) p hp

theorem forall₂_concat {gained ledger : List (Position α)} {p q : Position α}
    (h : List.Forall₂ (Position.Mirrors fills) gained ledger) (hpq : p.Mirrors fills q) :
    List.Forall₂ (Position.Mirrors fills) (gained ++ [p]) (ledger ++ [q]) :=
  List.rel_append h (.cons hpq .nil)

theorem Agrees.tracks (h : Agrees fills positions old live sim) : live.Tracks positions := by
  cases h with
  | resting _ hnone => exact Live.tracks_of_none hnone
  | holding _ hsome hpositions _ _ _ hpq hopen _ =>
      intro p' hp'
      rw [hsome] at hp'
      cases hp'
      exact ⟨hpq.isOpen.trans hopen, _, hpositions⟩

theorem Agrees.current?_of_current (h : Agrees fills positions old live sim) {p : Position α}
    (hp : live.current = some p) : ∃ q, sim.current? = some q := by
  cases h with
  | resting _ hnone =>
      rw [hnone] at hp
      cases hp
  | @holding _ _ _ q _ _ _ _ hledger _ _ _ hopen _ =>
      exact ⟨q, Simulated.current?_holding hledger hopen⟩

variable (budget : Budget α β) (candle : Candle α)

/-- Both traders close the last position, or are refused alike. -/
theorem abreast_closing [Scalar α] {gained settled : List (Position α)} {p q : Position α}
    {o : Order α} {k : κ} {t : Live.Turn α β κ (Option (Position α))}
    (hbudget : live.budget = sim.budget) (hledger : sim.ledger = settled ++ [q])
    (hmirrors : List.Forall₂ (Position.Mirrors fills) gained settled)
    (hclosed : ∀ q' ∈ settled, q'.isOpen = false) (hpq : p.Mirrors fills q)
    (hopen : q.isOpen = true) (horders : q.orders = [o])
    (hnow : positions k = old ++ gained ++ [p])
    (hclosing : Live.Closing Failure.Never (fills candle) positions budget candle (old ++ gained) p
      { live with exchange := k, current := some p } t) :
    Abreast fills positions old t (Simulated.close budget candle sim) := by
  rw [Simulated.close_holding hledger hopen horders]
  cases hclosing with
  | refused hb hstate hresult =>
      rw [hbudget, hpq.side, hpq.status] at hb
      rw [hb]
      refine ⟨?_, by rw [hresult]; rfl⟩
      rw [hstate]
      exact .holding rfl rfl hnow hledger hmirrors hclosed hpq hopen horders
  | miscounted _ hcount =>
      have hlength := hpq.orders.length_eq
      rw [horders] at hlength
      exact absurd hlength hcount
  | failed _ _ _ hf => exact hf.elim
  | done hb horders' hcounters hnow' hstate hresult =>
      rw [hbudget, hpq.side, hpq.status] at hb
      rw [hb]
      refine ⟨?_, by rw [hresult]; rfl⟩
      have hmirrors' := forall₂_concat hmirrors (hpq.close horders' horders hcounters)
      rw [hstate]
      refine .resting rfl rfl (hnow'.trans (List.append_assoc ..)) hmirrors' fun q' hq' => ?_
      rcases List.mem_append.mp hq' with hq' | hq'
      · exact hclosed q' hq'
      · rw [List.mem_singleton.mp hq']
        rfl

variable (hkeeps : exchange.Keeps Failure.Never (fills candle) positions sound)
  (hsound : sound live.exchange)

include hkeeps hsound

/-- Both traders open, or are refused alike. -/
theorem abreast_create (side : Side) {gained : List (Position α)}
    (hbudget : live.budget = sim.budget) (hnone : live.current = none)
    (hpositions : positions live.exchange = old ++ gained)
    (hmirrors : List.Forall₂ (Position.Mirrors fills) gained sim.ledger)
    (hclosed : ∀ q ∈ sim.ledger, q.isOpen = false) :
    sound (Live.create budget exchange side candle live).state.exchange ∧
      Abreast fills positions old (Live.create budget exchange side candle live)
        (Simulated.append budget side candle sim) := by
  obtain ⟨hsound', hcreating⟩ := Live.create_cases budget candle hkeeps hsound side
  refine ⟨hsound', ?_⟩
  cases hcreating with
  | refused hb hstate hresult =>
      rw [hbudget] at hb
      rw [Simulated.append_refused hb]
      refine ⟨?_, by rw [hresult]; rfl⟩
      rw [hstate]
      exact .resting rfl hnone hpositions hmirrors hclosed
  | failed _ hf => exact hf.elim
  | @done quantity b k p hb hopened hnow hstate hresult =>
      rw [hbudget] at hb
      rw [Simulated.append_done hb]
      refine ⟨?_, by rw [hresult]; rfl⟩
      obtain ⟨o, horders, hside, hquantity, hfills⟩ := hopened.orders
      have hstatus : p.status = .opened := Position.isOpen_iff.mp hopened.isOpen
      rw [hstate]
      refine .holding rfl rfl (hnow.trans (by rw [hpositions])) rfl hmirrors hclosed ?_ rfl rfl
      refine ⟨hopened.side, hstatus, ?_⟩
      rw [horders]
      exact .cons ⟨hside, hquantity, candle, hfills, rfl⟩ .nil

variable [Scalar α]

theorem abreast_close (hold : ∀ p ∈ old, p.isOpen = false)
    (h : Agrees fills positions old live sim) :
    sound (Live.close budget exchange candle live).state.exchange ∧
      Abreast fills positions old (Live.close budget exchange candle live)
        (Simulated.close budget candle sim) := by
  obtain ⟨hsound', hceasing⟩ := Live.close_cases budget candle hkeeps hsound h.tracks
  refine ⟨hsound', ?_⟩
  cases h with
  | @resting gained hbudget hnone hpositions hmirrors hclosed =>
      rw [Simulated.close_resting hclosed]
      cases hceasing with
      | unseen _ hf => exact hf.elim
      | nothing _ _ hnow hstate hresult =>
          refine ⟨?_, by rw [hresult]; rfl⟩
          rw [hstate]
          exact .resting hbudget hnone (hnow.trans hpositions) hmirrors hclosed
      | @closing older p k _ hopen hbefore =>
          have hmem : p ∈ old ++ gained := by
            rw [← hpositions, hbefore]
            simp
          rcases List.mem_append.mp hmem with hp | hp
          · rw [hold p hp] at hopen
            cases hopen
          · rw [closed_of_mirrors hmirrors hclosed p hp] at hopen
            cases hopen
  | @holding gained settled p q o hbudget hsome hpositions hledger hmirrors hclosed hpq hopen
      horders =>
      cases hceasing with
      | unseen hnone => simp [hsome] at hnone
      | nothing hnone => simp [hsome] at hnone
      | @closing older p' k hcurrent _ hbefore hnow hclosing =>
          obtain rfl : p = p' := by simpa [hsome] using hcurrent
          obtain rfl : old ++ gained = older :=
            List.append_cancel_right (hpositions.symm.trans hbefore)
          exact abreast_closing budget candle hbudget hledger hmirrors hclosed hpq hopen horders
            hnow hclosing

theorem abreast_openPosition (side : Side) (hold : ∀ p ∈ old, p.isOpen = false)
    (h : Agrees fills positions old live sim) :
    sound (Live.openPosition budget exchange side candle live).state.exchange ∧
      Abreast fills positions old (Live.openPosition budget exchange side candle live)
        (Simulated.openPosition budget side candle sim) := by
  cases hcurrent : live.current with
  | none =>
      cases h with
      | holding _ hsome =>
          rw [hcurrent] at hsome
          cases hsome
      | resting hbudget hnone hpositions hmirrors hclosed =>
          rw [Live.openPosition_idle hcurrent,
            Simulated.openPosition_resting side (Simulated.current?_resting hclosed)]
          exact abreast_create budget candle hkeeps hsound side hbudget hnone hpositions hmirrors
            hclosed
  | some p =>
      obtain ⟨hsound', hagrees, halike⟩ := abreast_close budget candle hkeeps hsound hold h
      obtain ⟨q, hcurrent'⟩ := h.current?_of_current hcurrent
      cases hresult : (Live.close budget exchange candle live).result with
      | error f =>
          rw [hresult] at halike
          obtain ⟨hstate, hend⟩ := Live.openPosition_refused side hcurrent hresult
          obtain ⟨hstate', hend'⟩ := Simulated.openPosition_refused side hcurrent' halike.symm
          exact ⟨hstate ▸ hsound', hstate ▸ hstate' ▸ hagrees, by rw [hend, hend']; rfl⟩
      | ok reply =>
          rw [hresult] at halike
          obtain ⟨hstate, hend⟩ := Live.openPosition_closed side hcurrent hresult
          obtain ⟨hstate', hend'⟩ := Simulated.openPosition_closed side hcurrent' halike.symm
          obtain ⟨-, hceasing⟩ := Live.close_cases budget candle hkeeps hsound h.tracks
          have hnone := hceasing.current_eq_none hresult
          cases hagrees with
          | holding _ hsome =>
              rw [hnone] at hsome
              cases hsome
          | resting hbudget _ hpositions hmirrors hclosed =>
              obtain ⟨hsound'', hagrees, halike⟩ := abreast_create budget candle hkeeps hsound' side
                hbudget hnone hpositions hmirrors hclosed
              exact ⟨hstate ▸ hsound'', hstate ▸ hstate' ▸ hagrees, by rw [hend, hend', halike]⟩

theorem abreast_attempt (side : Side) (action : Action) (hold : ∀ p ∈ old, p.isOpen = false)
    (h : Agrees fills positions old live sim) :
    sound (Live.attempt budget exchange side action candle live).state.exchange ∧
      Abreast fills positions old (Live.attempt budget exchange side action candle live)
        (Simulated.attempt budget side action candle sim) := by
  cases action with
  | openPosition => exact abreast_openPosition budget candle hkeeps hsound side hold h
  | closePosition => exact abreast_close budget candle hkeeps hsound hold h

theorem abreast_follow (signal : Signal) (hold : ∀ p ∈ old, p.isOpen = false)
    (h : Agrees fills positions old live sim) :
    sound (Live.follow budget exchange signal candle live).state.exchange ∧
      Agrees fills positions old (Live.follow budget exchange signal candle live).state
        (Simulated.follow budget signal candle sim).state ∧
      (Live.follow budget exchange signal candle live).result =
        (Simulated.follow budget signal candle sim).result := by
  cases signal with
  | hold => exact ⟨hsound, h, rfl⟩
  | advice side action =>
      obtain ⟨hsound', hagrees, halike⟩ :=
        abreast_attempt budget candle hkeeps hsound side action hold h
      rw [Live.follow, Simulated.follow, Live.act_state, Live.act_result, Simulated.act_state,
        Simulated.act_result, ← halike, Failure.forgiven_map]
      exact ⟨hsound', hagrees, rfl⟩

end Steps

section Runs

variable (rule : Rule α ρ) (budget : Budget α β) (market : Candle α → Exchange α κ)

def Live.handleAll (bars : List (Candle α)) (s : Live α β κ × ρ) : Live α β κ × ρ :=
  bars.foldl (fun s bar => ((handle rule budget (market bar) bar s).1.state,
    (handle rule budget (market bar) bar s).2)) s

variable {market} {fills : Candle α → Order α → Prop} {positions : κ → List (Position α)}
  {sound : κ → Prop} {old : List (Position α)} [Scalar α]
  (hkeeps : ∀ candle, (market candle).Keeps Failure.Never (fills candle) positions sound)
  (hold : ∀ p ∈ old, p.isOpen = false)

include hkeeps hold

theorem agrees_handleAll (bars : List (Candle α)) {live : Live α β κ} {sim : Simulated α β}
    (r : ρ) (hsound : sound live.exchange) (h : Agrees fills positions old live sim) :
    sound (Live.handleAll rule budget market bars (live, r)).1.exchange ∧
      Agrees fills positions old (Live.handleAll rule budget market bars (live, r)).1
        (Simulated.handleAll rule budget bars (sim, r)).1 ∧
      (Live.handleAll rule budget market bars (live, r)).2 =
        (Simulated.handleAll rule budget bars (sim, r)).2 := by
  induction bars generalizing live sim r with
  | nil => exact ⟨hsound, h, rfl⟩
  | cons bar bars ih =>
      obtain ⟨hsound', hagrees, -⟩ :=
        abreast_follow budget bar (hkeeps bar) hsound (rule.advise r bar).1 hold h
      exact ih (rule.advise r bar).2 hsound' hagrees

omit hkeeps hold

theorem map_profit_eq {gained ledger : List (Position α)}
    (h : List.Forall₂ (Position.Mirrors fills) gained ledger)
    (hprice : ∀ candle o, fills candle o → o.price = candle.closePrice) :
    gained.map Position.profit = ledger.map Position.profit := by
  induction h with
  | nil => rfl
  | cons hpq _ ih => rw [List.map_cons, List.map_cons, hpq.profit hprice, ih]

omit [Scalar α] in
theorem Agrees.ledger {live : Live α β κ} {sim : Simulated α β}
    (h : Agrees fills positions old live sim) :
    live.budget = sim.budget ∧ ∃ gained, positions live.exchange = old ++ gained ∧
      List.Forall₂ (Position.Mirrors fills) gained sim.ledger ∧
      CopiesLast fills gained live sim := by
  cases h with
  | @resting gained hbudget hnone hpositions hmirrors hclosed =>
      refine ⟨hbudget, gained, hpositions, hmirrors, .none hnone fun q hq => ?_⟩
      exact hclosed q (List.mem_of_getLast? hq)
  | @holding gained settled p q _ hbudget hsome hpositions hledger hmirrors _ hpq hopen _ =>
      refine ⟨hbudget, gained ++ [p], hpositions.trans (List.append_assoc ..),
        hledger ▸ forall₂_concat hmirrors hpq, ?_⟩
      exact .some hsome List.getLast?_concat (hledger ▸ List.getLast?_concat) hpq hopen

theorem decideAlike_handle (rule : Rule α ρ) (r : ρ) (bar : Candle α)
    (hkeeps : (market bar).Keeps Failure.Never (fills bar) positions sound)
    (hold : ∀ p ∈ old, p.isOpen = false) {live : Live α (Balances α) κ}
    {sim : Simulated α (Balances α)} (hsound : sound live.exchange)
    (horder : Simulated.InOrder sim.ledger) (h : Agrees fills positions old live sim) :
    DecideAlike fills positions old
      (Live.handle rule (fixedBudget α) (market bar) bar (live, r)).1
      (Simulated.handle rule (fixedBudget α) bar (sim, r)).1 := by
  obtain ⟨-, hagrees, hresult⟩ :=
    abreast_follow (fixedBudget α) bar hkeeps hsound (rule.advise r bar).1 hold h
  obtain ⟨-, hok⟩ := Simulated.handle_fixedBudget bar rule r horder
  obtain ⟨hbudget, gained, hpositions, hmirrors, hlast⟩ := hagrees.ledger
  exact ⟨hresult.trans hok, hok, hbudget, gained, hpositions, hmirrors, hlast,
    map_profit_eq hmirrors⟩

/-- Fed the same bars, with the same rule and the same funds, on an exchange without a failure
and at first without an open position, the two traders take the same decisions. -/
theorem live_decides_as_simulated (rule : Rule α ρ) (r : ρ) (funds : Balances α)
    (hkeeps : ∀ candle, (market candle).Keeps Failure.Never (fills candle) positions sound)
    {k : κ} (hk : sound k) (hclosed : ∀ p ∈ positions k, p.isOpen = false)
    (bars : List (Candle α)) (bar : Candle α) :
    DecideAlike fills positions (positions k)
      (Live.handle rule (fixedBudget α) (market bar) bar
        (Live.handleAll rule (fixedBudget α) market bars (.start funds k, r))).1
      (Simulated.handle rule (fixedBudget α) bar
        (Simulated.handleAll rule (fixedBudget α) bars (.start funds, r))).1 := by
  have hstart : Agrees fills positions (positions k) (.start funds k) (.start funds) :=
    .resting rfl rfl (List.append_nil _).symm .nil fun q hq => nomatch hq
  have horder : Simulated.InOrder (Simulated.start funds : Simulated α (Balances α)).ledger :=
    .resting fun q hq => nomatch hq
  obtain ⟨hsound, hagrees, hrule⟩ :=
    agrees_handleAll rule (fixedBudget α) hkeeps hclosed bars r hk hstart
  have horder' := Simulated.inOrder_handleAll rule (fixedBudget α) bars (s := (.start funds, r))
    horder
  generalize Live.handleAll rule (fixedBudget α) market bars (.start funds k, r) = live at *
  generalize Simulated.handleAll rule (fixedBudget α) bars (.start funds, r) = sim at *
  obtain ⟨live, r'⟩ := live
  obtain ⟨sim, r''⟩ := sim
  obtain rfl : r' = r'' := hrule
  exact decideAlike_handle rule r' bar (hkeeps bar) hclosed hsound horder' hagrees

def Candle.closingAt (price : α) : Candle α :=
  { Candle.blank with closePrice := price }

/-- A position opened at a hundred and closed at a hundred and ten, on an exchange that fills at
the close of the bar. -/
theorem round_trip_decided_alike :
    DecideAlike (fun candle o => o.price = candle.closePrice) Stored.positions []
        (Live.handle (.reciting Rat) (fixedBudget Rat) (storedAt 110) (.closingAt 110)
          (Live.handleAll (.reciting Rat) (fixedBudget Rat) (fun bar => storedAt bar.closePrice)
            [.closingAt 100] (.start ⟨1000, 1000, 1⟩ (.ofPositions [] fun _ => 0),
              [.advice .buy .openPosition, .advice .buy .closePosition]))).1
        (Simulated.handle (.reciting Rat) (fixedBudget Rat) (.closingAt 110)
          (Simulated.handleAll (.reciting Rat) (fixedBudget Rat) [.closingAt 100]
            (.start ⟨1000, 1000, 1⟩,
              [.advice .buy .openPosition, .advice .buy .closePosition]))).1 ∧
      (Simulated.handleAll (.reciting Rat) (fixedBudget Rat) [.closingAt 100, .closingAt 110]
        (.start ⟨1000, 1000, 1⟩, [.advice .buy .openPosition,
          .advice .buy .closePosition])).1.ledger.map Position.profit = [10] := by
  refine ⟨?_, by decide +kernel⟩
  have hempty : ∀ p ∈ (Stored.ofPositions [] fun _ => (0 : Rat)).positions, p.isOpen = false :=
    fun p hp => nomatch hp
  exact live_decides_as_simulated (.reciting Rat) _ _
    (fun candle => storedAt_keeps candle.closePrice) (Stored.sound_empty _) hempty
    [.closingAt 100] (.closingAt 110)

end Runs

end Crossover

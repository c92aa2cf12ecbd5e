import Crossover.Proofs.Trading.Attempt
import Crossover.Proofs.Trading.Dealings
import Crossover.Proofs.Trading.Stored

/-!
# No position is closed twice

The live trader asks for a closing order only beside a single opening order, on the newest
position and as long as it is open. A failure of the exchange is fatal, and the trader that takes
over afterwards looks the position up again, with all orders it has by then. So a position never
gets a second closing order, whichever calls fail and whether or not they took effect. This is
said of the positions after a bar, and holds between any two calls too, since an exchange on which
all further calls fail keeps the laws (`Exchange.Keeps.crashing`).
-/

namespace Crossover

variable {α β κ ρ : Type}

namespace Position

/-- A position as it is traded once: it has no order, or an opening order, or with it a closing
order that mirrors it. -/
inductive TradedOnce (p : Position α) : Prop
  | bare : p.orders = [] → TradedOnce p
  | opened {o : Order α} : p.orders = [o] → o.side = p.side → TradedOnce p
  | closed {o o' : Order α} : p.orders = [o, o'] → o.side = p.side →
      o'.side = p.side.opposite → o'.quantity = o.quantity → TradedOnce p

variable {p : Position α} {o : Order α}

theorem TradedOnce.side_of_singleton (h : p.TradedOnce) (ho : p.orders = [o]) :
    o.side = p.side := by
  cases h with
  | bare h => simp [h] at ho
  | opened h hside =>
      rw [h] at ho
      exact List.singleton_inj.mp ho ▸ hside
  | closed h => simp [h] at ho

/-- At most two orders, and of two the second mirrors the first. -/
theorem TradedOnce.orders (h : p.TradedOnce) : p.orders.length ≤ 2 ∧
    ∀ o o', p.orders = [o, o'] →
      o.side = p.side ∧ o'.side = p.side.opposite ∧ o'.quantity = o.quantity := by
  cases h with
  | bare h => simp [h]
  | opened h => simp [h]
  | closed h hside hside' hquantity =>
      refine ⟨by simp [h], fun o o' ho => ?_⟩
      rw [h] at ho
      cases ho
      exact ⟨hside, hside', hquantity⟩

end Position

namespace Live

/-- All positions but the old ones were traded once. -/
def Guarded (old ps : List (Position α)) : Prop :=
  ∀ p ∈ ps, p ∈ old ∨ p.TradedOnce

section Positions

variable {fills : Order α → Prop} {old older : List (Position α)} {p : Position α}
  {opening o : Order α}

theorem Guarded.concat (h : Guarded old older) (hp : p.TradedOnce) :
    Guarded old (older ++ [p]) := by
  intro q hq
  rcases List.mem_append.mp hq with hq | hq
  · exact h q hq
  · exact .inr (List.mem_singleton.mp hq ▸ hp)

theorem Guarded.prefix_guarded (h : Guarded old (older ++ [p])) : Guarded old older :=
  fun q hq => h q (List.mem_append_left _ hq)

/-- An open position is none of the old ones. -/
theorem Guarded.newest (h : Guarded old (older ++ [p])) (hold : ∀ q ∈ old, q.isOpen = false)
    (hopen : p.isOpen = true) : p.TradedOnce := by
  rcases h p (by simp) with hp | hp
  · rw [hold p hp] at hopen
    cases hopen
  · exact hp

/-- The closing order goes beside a single opening order. -/
theorem Counters.tradedOnce (hc : Counters fills p opening o) (h : p.TradedOnce)
    (horders : p.orders = [opening]) : (p.withOrder o).TradedOnce ∧ (p.close o).TradedOnce := by
  have hside := h.side_of_singleton horders
  have htwo : p.orders ++ [o] = [opening, o] := by rw [horders]; rfl
  exact ⟨.closed htwo hside hc.side hc.quantity, .closed htwo hside hc.side hc.quantity⟩

end Positions

section Steps

variable {fails : Failure α → Prop} {fills : Order α → Prop} {positions : κ → List (Position α)}
  {sound : κ → Prop} {exchange : Exchange α κ} {budget : Budget α β} {candle : Candle α}
  {old : List (Position α)} {s : Live α β κ} {t : Turn α β κ (Option (Position α))}

/-- What an attempt leaves behind: the positions are guarded, and the trader still tracks unless
the attempt failed for good. -/
structure Turn.Careful {ω : Type} (positions : κ → List (Position α)) (old : List (Position α))
    (t : Turn α β κ ω) : Prop where
  guarded : Guarded old (positions t.state.exchange)
  tracks : (∀ f, t.result = .error f → f.isRecoverable = true) → t.state.Tracks positions

theorem Turn.careful_of_fatal {f : Failure α} (hguarded : Guarded old (positions t.state.exchange))
    (hresult : t.result = .error f) (hf : f.isRecoverable = false) : t.Careful positions old where
  guarded := hguarded
  tracks hrecoverable := by
    rw [hrecoverable f hresult] at hf
    cases hf

theorem careful_of_creating (hfatal : ∀ f, fails f → f.isRecoverable = false) {side : Side}
    (hguarded : Guarded old (positions s.exchange)) (htracks : s.Tracks positions)
    (h : Creating fails fills positions budget candle side s t) : t.Careful positions old := by
  obtain ⟨state, notes, result⟩ := t
  cases h with
  | refused _ hstate hresult =>
      obtain rfl := hstate
      exact ⟨hguarded, fun _ => htracks⟩
  | failed _ hf hnow hstate hresult =>
      obtain rfl := hstate
      refine Turn.careful_of_fatal ?_ hresult (hfatal _ hf)
      rcases hnow with hnow | ⟨p, hp, hnow⟩
      · exact hnow ▸ hguarded
      · refine hnow ▸ hguarded.concat ?_
        rcases hp with hopened | hbare
        · obtain ⟨o, horders, hside, -⟩ := hopened.orders
          exact .opened horders (hside.trans hopened.side.symm)
        · exact .bare hbare.orders
  | @done quantity b k p _ hopened hnow hstate hresult =>
      obtain rfl := hstate
      obtain ⟨o, horders, hside, -⟩ := hopened.orders
      refine ⟨?_, fun _ q hq => ?_⟩
      · exact hnow ▸ hguarded.concat (.opened horders (hside.trans hopened.side.symm))
      · cases hq
        exact ⟨hopened.isOpen, _, hnow⟩

theorem careful_of_closing (hfatal : ∀ f, fails f → f.isRecoverable = false)
    (hold : ∀ q ∈ old, q.isOpen = false) {older : List (Position α)} {p : Position α}
    (hguarded : Guarded old (older ++ [p])) (hopen : p.isOpen = true)
    (hnow : positions s.exchange = older ++ [p]) (htracks : s.Tracks positions)
    (h : Closing fails fills positions budget candle older p s t) : t.Careful positions old := by
  have honce := hguarded.newest hold hopen
  obtain ⟨state, notes, result⟩ := t
  cases h with
  | refused _ hstate hresult =>
      obtain rfl := hstate
      exact ⟨hnow ▸ hguarded, fun _ => htracks⟩
  | miscounted _ _ hstate hresult =>
      obtain rfl := hstate
      exact ⟨hnow ▸ hguarded, fun _ => htracks⟩
  | failed _ horders hc hf hp' hnow' hstate hresult =>
      obtain rfl := hstate
      refine Turn.careful_of_fatal ?_ hresult (hfatal _ hf)
      refine hnow' ▸ hguarded.prefix_guarded.concat ?_
      rcases hp' with rfl | rfl | rfl
      · exact honce
      · exact (hc.tradedOnce honce horders).1
      · exact (hc.tradedOnce honce horders).2
  | done _ horders hc hnow' hstate hresult =>
      obtain rfl := hstate
      refine ⟨?_, fun _ => tracks_of_none rfl⟩
      exact hnow' ▸ hguarded.prefix_guarded.concat (hc.tradedOnce honce horders).2

theorem careful_of_ceasing (hfatal : ∀ f, fails f → f.isRecoverable = false)
    (hold : ∀ q ∈ old, q.isOpen = false) (hguarded : Guarded old (positions s.exchange))
    (h : Ceasing fails fills positions budget candle s t) : t.Careful positions old := by
  cases h with
  | unseen _ hf hnow hstate hresult =>
      refine Turn.careful_of_fatal ?_ hresult (hfatal _ hf)
      rw [hstate]
      exact hnow ▸ hguarded
  | nothing hnone _ hnow hstate hresult =>
      refine ⟨?_, fun _ => ?_⟩
      · rw [hstate]
        exact hnow ▸ hguarded
      · rw [hstate]
        exact tracks_of_none hnone
  | closing _ hopen hold' hnow hclosing =>
      refine careful_of_closing hfatal hold (hold' ▸ hguarded) hopen hnow ?_ hclosing
      intro q hq
      cases hq
      exact ⟨hopen, _, hnow⟩

section Attempts

variable (budget : Budget α β) (candle : Candle α)
  (hkeeps : exchange.Keeps fails fills positions sound)
  (hfatal : ∀ f, fails f → f.isRecoverable = false) (hold : ∀ q ∈ old, q.isOpen = false)
  (hsound : sound s.exchange) (hguarded : Guarded old (positions s.exchange))
  (htracks : s.Tracks positions)

include hkeeps hfatal hold hsound hguarded htracks

theorem careful_close : sound (close budget exchange candle s).state.exchange ∧
    (close budget exchange candle s).Careful positions old := by
  obtain ⟨hsound', hceasing⟩ := close_cases budget candle hkeeps hsound htracks
  exact ⟨hsound', careful_of_ceasing hfatal hold hguarded hceasing⟩

theorem careful_openPosition (side : Side) :
    sound (openPosition budget exchange side candle s).state.exchange ∧
      (openPosition budget exchange side candle s).Careful positions old := by
  cases hcurrent : s.current with
  | none =>
      rw [openPosition_idle hcurrent]
      obtain ⟨hsound', hcreating⟩ := create_cases budget candle hkeeps hsound side
      exact ⟨hsound', careful_of_creating hfatal hguarded htracks hcreating⟩
  | some p =>
      obtain ⟨hsound', hcareful⟩ := careful_close budget candle hkeeps hfatal hold hsound
        hguarded htracks
      cases hresult : (close budget exchange candle s).result with
      | error f =>
          obtain ⟨hstate, hresult'⟩ := openPosition_refused side hcurrent hresult
          refine ⟨hstate ▸ hsound', hstate ▸ hcareful.guarded, fun hrecoverable => ?_⟩
          rw [hstate]
          exact hcareful.tracks fun f' hf' => hrecoverable f' (by rw [hresult', ← hresult, hf'])
      | ok reply =>
          obtain ⟨hstate, hresult'⟩ := openPosition_closed side hcurrent hresult
          have htracks' := hcareful.tracks fun f hf => by rw [hresult] at hf; cases hf
          obtain ⟨hsound'', hcreating⟩ := create_cases budget candle hkeeps hsound' side
          have hcareful' := careful_of_creating hfatal hcareful.guarded htracks' hcreating
          refine ⟨hstate ▸ hsound'', hstate ▸ hcareful'.guarded, fun hrecoverable => ?_⟩
          rw [hstate]
          exact hcareful'.tracks fun f hf => hrecoverable f (hresult'.trans hf)

theorem careful_attempt (side : Side) (action : Action) :
    sound (attempt budget exchange side action candle s).state.exchange ∧
      (attempt budget exchange side action candle s).Careful positions old := by
  cases action with
  | openPosition =>
      exact careful_openPosition budget candle hkeeps hfatal hold hsound hguarded htracks side
  | closePosition => exact careful_close budget candle hkeeps hfatal hold hsound hguarded htracks

/-- A step keeps the positions guarded, and if it is not fatal the trader still tracks. -/
theorem careful_follow (signal : Signal) :
    sound (follow budget exchange signal candle s).state.exchange ∧
      (follow budget exchange signal candle s).Careful positions old := by
  cases signal with
  | hold => exact ⟨hsound, hguarded, fun _ => htracks⟩
  | advice side action =>
      obtain ⟨hsound', hcareful⟩ := careful_attempt budget candle hkeeps hfatal hold hsound
        hguarded htracks side action
      rw [follow]
      refine ⟨?_, ?_, fun hrecoverable => ?_⟩
      · rw [act_state]
        exact hsound'
      · rw [act_state]
        exact hcareful.guarded
      · rw [act_state]
        refine hcareful.tracks fun f hf => Failure.recoverable_of_forgiven hf fun f' hf' => ?_
        exact hrecoverable f' (act_result side action ▸ hf')

end Attempts

end Steps

section Runs

variable (rule : Rule α ρ) (budget : Budget α β) (exchange : Exchange α κ) (k : κ)

/-- Where the traders of an exchange can be, one after the other: the first one starts on the
exchange in this state, a step that does not fail leads on, and after any step, failed or not, a
fresh trader may take over. -/
inductive Reached : Live α β κ × ρ → Prop
  | start (funds : β) (r : ρ) : Reached (.start funds k, r)
  | handled {s : Live α β κ × ρ} (candle : Candle α) : Reached s →
      (handle rule budget exchange candle s).1.result = .ok () →
      Reached ((handle rule budget exchange candle s).1.state,
        (handle rule budget exchange candle s).2)
  | replaced {s : Live α β κ × ρ} (candle : Candle α) (funds : β) (r : ρ) : Reached s →
      Reached (.start funds (handle rule budget exchange candle s).1.state.exchange, r)

variable {rule budget exchange k} {fails : Failure α → Prop} {fills : Order α → Prop}
  {positions : κ → List (Position α)} {sound : κ → Prop} {s : Live α β κ × ρ}

theorem Reached.guarded (hkeeps : exchange.Keeps fails fills positions sound)
    (hfatal : ∀ f, fails f → f.isRecoverable = false)
    (hold : ∀ p ∈ positions k, p.isOpen = false) (hk : sound k)
    (h : Reached rule budget exchange k s) :
    sound s.1.exchange ∧ Guarded (positions k) (positions s.1.exchange) ∧
      s.1.Tracks positions := by
  induction h with
  | start funds r => exact ⟨hk, fun p hp => .inl hp, tracks_of_none rfl⟩
  | @handled s candle _ hresult ih =>
      obtain ⟨hsound, hguarded, htracks⟩ := ih
      obtain ⟨hsound', hcareful⟩ := careful_follow budget candle hkeeps hfatal hold hsound
        hguarded htracks (rule.advise s.2 candle).1
      refine ⟨hsound', hcareful.guarded, hcareful.tracks fun f hf => ?_⟩
      rw [handle_result, hf] at hresult
      cases hresult
  | @replaced s candle funds r _ ih =>
      obtain ⟨hsound, hguarded, htracks⟩ := ih
      obtain ⟨hsound', hcareful⟩ := careful_follow budget candle hkeeps hfatal hold hsound
        hguarded htracks (rule.advise s.2 candle).1
      exact ⟨hsound', hcareful.guarded, tracks_of_none rfl⟩

/-- Whatever calls fail, before or after their effect, and however often the trader is replaced,
a position that was not there from the start has at most two orders: the opening one on its own
side, and the closing one on the other side with the same quantity. -/
theorem closed_at_most_once (hkeeps : exchange.Keeps fails fills positions sound)
    (hfatal : ∀ f, fails f → f.isRecoverable = false)
    (hold : ∀ p ∈ positions k, p.isOpen = false) (hk : sound k)
    (h : Reached rule budget exchange k s) :
    ∀ p ∈ positions s.1.exchange, p ∈ positions k ∨ (p.orders.length ≤ 2 ∧
      ∀ o o', p.orders = [o, o'] →
        o.side = p.side ∧ o'.side = p.side.opposite ∧ o'.quantity = o.quantity) := by
  intro p hp
  obtain ⟨-, hguarded, -⟩ := h.guarded hkeeps hfatal hold hk
  exact (hguarded p hp).imp_right Position.TradedOnce.orders

/-- The reply to a closing order is lost, and the trader that takes over does not send
another. -/
theorem lost_closing_order_not_repeated :
    ∃ s, Reached (.reciting Rat) (fixedBudget Rat) (mishapExchange (.outside .transport "lost" []))
        (.ofPositions [] fun _ => 1, [.kept, .lost]) s ∧
      s.1.exchange.1.positions.map (fun p => p.orders.map Order.side) = [[.buy, .sell]] ∧
      ∀ p ∈ s.1.exchange.1.positions, p ∈ ([] : List (Position Rat)) ∨ (p.orders.length ≤ 2 ∧
        ∀ o o', p.orders = [o, o'] →
          o.side = p.side ∧ o'.side = p.side.opposite ∧ o'.quantity = o.quantity) := by
  have hstart : Reached (.reciting Rat) (fixedBudget Rat)
      (mishapExchange (.outside .transport "lost" []))
      (.ofPositions [] fun _ => 1, [.kept, .lost])
      (.start ⟨1000, 1000, 1⟩ _, [.advice .buy .openPosition, .advice .buy .closePosition]) :=
    .start _ _
  have hopened := hstart.handled .blank (by decide +kernel)
  have hlost := hopened.replaced .blank ⟨1000, 1000, 1⟩ [.advice .buy .closePosition]
  have hagain := hlost.replaced .blank ⟨1000, 1000, 1⟩ []
  refine ⟨_, hagain, by decide +kernel,
    closed_at_most_once (mishapExchange_keeps _) ?_ ?_ ?_ hagain⟩
  · rintro f rfl
    rfl
  · intro p hp
    cases hp
  · exact Stored.sound_empty _

end Runs

end Live

end Crossover

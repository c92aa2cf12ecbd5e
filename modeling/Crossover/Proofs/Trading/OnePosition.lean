import Mathlib.Data.List.Induction
import Crossover.Proofs.Trading.Attempt
import Crossover.Proofs.Trading.Dealings
import Crossover.Proofs.Trading.Stored

/-!
# At most one open position

On an exchange that never fails, a live trader opens a second position in one case only: it keeps
no copy of a position, as after a restart, the exchange still has one open, and the rule wants
another one opened, which the budget grants. The newest position is looked up when the trader is
to close, and not when it is to open. A run in which this never happens has at most one open
position at any time, and a run in which it happens has two.
-/

namespace Crossover

variable {α β κ ρ : Type}

namespace Position

def openCount (ps : List (Position α)) : Nat :=
  ps.countP isOpen

theorem openCount_concat_open {ps : List (Position α)} {p : Position α} (h : p.isOpen = true) :
    openCount (ps ++ [p]) = openCount ps + 1 := by
  simp [openCount, List.countP_append, h]

theorem openCount_concat_closed {ps : List (Position α)} {p : Position α}
    (h : p.isOpen = false) : openCount (ps ++ [p]) = openCount ps := by
  simp [openCount, List.countP_append, h]

end Position

open Position (openCount)

namespace Live

section Steps

variable {fills : Order α → Prop} {positions : κ → List (Position α)} {sound : κ → Prop}
  {exchange : Exchange α κ} (budget : Budget α β) (candle : Candle α) {s : Live α β κ}

/-- The trader opens without a copy although the exchange has a position open. -/
structure OpensBlindly (positions : κ → List (Position α)) (budget : Budget α β)
    (candle : Candle α) (signal : Signal) (s : Live α β κ) : Prop where
  untracked : s.current = none
  isOpen : ∃ p ∈ positions s.exchange, p.isOpen = true
  granted : ∃ side, signal = .advice side .openPosition ∧
    ∃ quantity, (budget.bookOpen s.budget side candle).1 = .ok quantity

variable (hkeeps : exchange.Keeps Failure.Never fills positions sound)

include hkeeps

theorem create_openCount (hsound : sound s.exchange) (htracks : s.Tracks positions)
    (side : Side) :
    sound (create budget exchange side candle s).state.exchange ∧
      (create budget exchange side candle s).state.Tracks positions ∧
      ((∃ f, (budget.bookOpen s.budget side candle).1 = .error f ∧
          openCount (positions (create budget exchange side candle s).state.exchange) =
            openCount (positions s.exchange)) ∨
        ∃ quantity, (budget.bookOpen s.budget side candle).1 = .ok quantity ∧
          openCount (positions (create budget exchange side candle s).state.exchange) =
            openCount (positions s.exchange) + 1) := by
  obtain ⟨hsound', hcreating⟩ := create_cases budget candle hkeeps hsound side
  refine ⟨hsound', ?_⟩
  cases hcreating with
  | @refused f b hb hstate _ =>
      rw [hstate]
      exact ⟨htracks, .inl ⟨f, by rw [hb], rfl⟩⟩
  | failed _ hf => exact hf.elim
  | @done quantity b k p hb hopened hnow hstate _ =>
      rw [hstate]
      refine ⟨fun q hq => ?_, .inr ⟨quantity, by rw [hb], ?_⟩⟩
      · cases hq
        exact ⟨hopened.isOpen, _, hnow⟩
      · rw [hnow]
        exact Position.openCount_concat_open hopened.isOpen

theorem close_openCount (hsound : sound s.exchange) (htracks : s.Tracks positions) :
    sound (close budget exchange candle s).state.exchange ∧
      (close budget exchange candle s).state.Tracks positions ∧
      openCount (positions (close budget exchange candle s).state.exchange) ≤
        openCount (positions s.exchange) ∧
      (s.current ≠ none → ∀ reply, (close budget exchange candle s).result = .ok reply →
        (close budget exchange candle s).state.current = none ∧
          openCount (positions (close budget exchange candle s).state.exchange) + 1 =
            openCount (positions s.exchange)) := by
  obtain ⟨hsound', hceasing⟩ := close_cases budget candle hkeeps hsound htracks
  refine ⟨hsound', ?_⟩
  cases hceasing with
  | unseen _ hf => exact hf.elim
  | nothing hnone _ hnow hstate _ =>
      rw [hstate, hnow]
      exact ⟨tracks_of_none hnone, Nat.le_refl _, fun hsome => absurd hnone hsome⟩
  | @closing older p k _ hopen hbefore hnow hclosing =>
      have hkept : Tracks positions { s with exchange := k, current := some p } := by
        intro q hq
        cases hq
        exact ⟨hopen, older, hnow⟩
      rw [hbefore]
      cases hclosing with
      | refused _ hstate hresult =>
          rw [hstate, hresult]
          exact ⟨hkept, hnow ▸ Nat.le_refl _, fun _ reply hr => nomatch hr⟩
      | miscounted _ _ hstate hresult =>
          rw [hstate, hresult]
          exact ⟨hkept, hnow ▸ Nat.le_refl _, fun _ reply hr => nomatch hr⟩
      | failed _ _ _ hf => exact hf.elim
      | @done _ b k' opening o reply _ _ _ hnow' hstate _ =>
          have hcount : openCount (positions k') + 1 = openCount (older ++ [p]) := by
            rw [hnow', Position.openCount_concat_closed rfl, Position.openCount_concat_open hopen]
          rw [hstate]
          refine ⟨tracks_of_none rfl, ?_, fun _ _ _ => ⟨rfl, hcount⟩⟩
          show openCount (positions k') ≤ _
          omega

theorem openPosition_openCount (hsound : sound s.exchange) (htracks : s.Tracks positions)
    (side : Side) :
    sound (openPosition budget exchange side candle s).state.exchange ∧
      (openPosition budget exchange side candle s).state.Tracks positions ∧
      (openCount (positions s.exchange) ≤ 1 →
        (openCount (positions (openPosition budget exchange side candle s).state.exchange) ≤ 1 ↔
          ¬ (s.current = none ∧ 0 < openCount (positions s.exchange) ∧
            ∃ quantity, (budget.bookOpen s.budget side candle).1 = .ok quantity))) := by
  cases hcurrent : s.current with
  | none =>
      obtain ⟨hsound', htracks', hcount⟩ :=
        create_openCount budget candle hkeeps hsound htracks side
      rw [openPosition_idle hcurrent]
      refine ⟨hsound', htracks', fun hone => ?_⟩
      rcases hcount with ⟨f, hb, hcount⟩ | ⟨quantity, hb, hcount⟩
      · rw [hcount, hb]
        simp [hone]
      · rw [hcount, hb]
        simp
  | some p =>
      obtain ⟨hsound', htracks', hless, hclosed⟩ :=
        close_openCount budget candle hkeeps hsound htracks
      cases hresult : (close budget exchange candle s).result with
      | error f =>
          obtain ⟨hstate, -⟩ := openPosition_refused side hcurrent hresult
          rw [hstate]
          refine ⟨hsound', htracks', fun hone => ?_⟩
          simp only [reduceCtorEq, false_and, not_false_eq_true, iff_true]
          omega
      | ok reply =>
          obtain ⟨hstate, -⟩ := openPosition_closed side hcurrent hresult
          obtain ⟨-, hcount⟩ := hclosed (by simp [hcurrent]) reply hresult
          obtain ⟨hsound'', htracks'', hcount'⟩ :=
            create_openCount budget candle hkeeps hsound' htracks' side
          rw [hstate]
          refine ⟨hsound'', htracks'', fun hone => ?_⟩
          simp only [reduceCtorEq, false_and, not_false_eq_true, iff_true]
          rcases hcount' with ⟨f, -, hcount'⟩ | ⟨quantity, -, hcount'⟩ <;> omega

/-- What one step comes to: it goes on from at most one open position to at most one, unless it
opens blindly. -/
theorem follow_openCount (hsound : sound s.exchange) (htracks : s.Tracks positions)
    (signal : Signal) :
    sound (follow budget exchange signal candle s).state.exchange ∧
      (follow budget exchange signal candle s).state.Tracks positions ∧
      (openCount (positions s.exchange) ≤ 1 →
        (openCount (positions (follow budget exchange signal candle s).state.exchange) ≤ 1 ↔
          ¬ OpensBlindly positions budget candle signal s)) := by
  cases signal with
  | hold =>
      refine ⟨hsound, htracks, fun hone => iff_of_true hone ?_⟩
      rintro ⟨-, -, side, hsignal, -⟩
      cases hsignal
  | advice side action =>
      rw [follow, act_state]
      cases action with
      | closePosition =>
          obtain ⟨hsound', htracks', hless, -⟩ :=
            close_openCount budget candle hkeeps hsound htracks
          refine ⟨hsound', htracks', fun hone => iff_of_true (Nat.le_trans hless hone) ?_⟩
          rintro ⟨-, -, side', hsignal, -⟩
          cases hsignal
      | openPosition =>
          obtain ⟨hsound', htracks', hcount⟩ :=
            openPosition_openCount budget candle hkeeps hsound htracks side
          refine ⟨hsound', htracks', fun hone => (hcount hone).trans (not_congr ?_)⟩
          constructor
          · rintro ⟨hnone, hpos, hb⟩
            exact ⟨hnone, List.countP_pos_iff.mp hpos, side, rfl, hb⟩
          · rintro ⟨hnone, hopen, side', hsignal, hb⟩
            cases hsignal
            exact ⟨hnone, List.countP_pos_iff.mpr hopen, hb⟩

end Steps

section Runs

/-- What happens to a trader: a bar comes, or the process is restarted. -/
inductive Happening (α β ρ : Type)
  | bar (candle : Candle α)
  | restart (funds : β) (r : ρ)

variable (rule : Rule α ρ) (budget : Budget α β) (exchange : Exchange α κ)

def meet (s : Live α β κ × ρ) : Happening α β ρ → Live α β κ × ρ
  | .bar candle => ((handle rule budget exchange candle s).1.state,
      (handle rule budget exchange candle s).2)
  | .restart funds r => (.start funds s.1.exchange, r)

def after (s : Live α β κ × ρ) (events : List (Happening α β ρ)) : Live α β κ × ρ :=
  events.foldl (meet rule budget exchange) s

variable {rule budget exchange} {fills : Order α → Prop} {positions : κ → List (Position α)}
  {sound : κ → Prop} {s : Live α β κ × ρ}

theorem meet_keeps (hkeeps : exchange.Keeps Failure.Never fills positions sound)
    (hsound : sound s.1.exchange) (htracks : s.1.Tracks positions) (event : Happening α β ρ) :
    sound (meet rule budget exchange s event).1.exchange ∧
      (meet rule budget exchange s event).1.Tracks positions := by
  cases event with
  | bar candle =>
      obtain ⟨hsound', htracks', -⟩ :=
        follow_openCount budget candle hkeeps hsound htracks (rule.advise s.2 candle).1
      exact ⟨hsound', htracks'⟩
  | restart funds r => exact ⟨hsound, tracks_of_none rfl⟩

theorem after_keeps (rule : Rule α ρ) (budget : Budget α β)
    (hkeeps : exchange.Keeps Failure.Never fills positions sound)
    (hsound : sound s.1.exchange) (htracks : s.1.Tracks positions)
    (events : List (Happening α β ρ)) :
    sound (after rule budget exchange s events).1.exchange ∧
      (after rule budget exchange s events).1.Tracks positions := by
  induction events generalizing s with
  | nil => exact ⟨hsound, htracks⟩
  | cons event events ih =>
      obtain ⟨hsound', htracks'⟩ := meet_keeps hkeeps hsound htracks event
      exact ih hsound' htracks'

theorem after_concat (done : List (Happening α β ρ)) (event : Happening α β ρ) :
    after rule budget exchange s (done ++ [event]) =
      meet rule budget exchange (after rule budget exchange s done) event := by
  rw [after, List.foldl_append]
  rfl

/-- A bar leads from at most one open position to at most one, unless it makes the trader open
blindly. -/
theorem openCount_bar (hkeeps : exchange.Keeps Failure.Never fills positions sound)
    (hsound : sound s.1.exchange) (htracks : s.1.Tracks positions) (done : List (Happening α β ρ))
    (candle : Candle α)
    (hone : openCount (positions (after rule budget exchange s done).1.exchange) ≤ 1) :
    openCount (positions (after rule budget exchange s (done ++ [.bar candle])).1.exchange) ≤ 1 ↔
      ¬ OpensBlindly positions budget candle
        (rule.advise (after rule budget exchange s done).2 candle).1
        (after rule budget exchange s done).1 := by
  obtain ⟨hsound', htracks'⟩ := after_keeps rule budget hkeeps hsound htracks done
  rw [after_concat]
  exact (follow_openCount budget candle hkeeps hsound' htracks' _).2.2 hone

/-- A trader that is started when no position is open, on an exchange that never fails, and then
gets bars and is restarted in any order: at most one position is open at any time exactly if no
bar makes the trader open blindly. -/
theorem one_open_iff_never_blindly (rule : Rule α ρ) (budget : Budget α β)
    (hkeeps : exchange.Keeps Failure.Never fills positions sound) {k : κ} (hk : sound k)
    (hclosed : ∀ p ∈ positions k, p.isOpen = false) (funds : β) (r : ρ)
    (events : List (Happening α β ρ)) :
    (∀ done, done <+: events →
      openCount (positions (after rule budget exchange (.start funds k, r) done).1.exchange) ≤ 1) ↔
    ∀ done candle, done ++ [.bar candle] <+: events →
      ¬ OpensBlindly positions budget candle
        (rule.advise (after rule budget exchange (.start funds k, r) done).2 candle).1
        (after rule budget exchange (.start funds k, r) done).1 := by
  have htracks : (start funds k : Live α β κ).Tracks positions := tracks_of_none rfl
  constructor
  · intro hone done candle hprefix
    have hdone := hone done ((List.prefix_append _ _).trans hprefix)
    exact (openCount_bar hkeeps hk htracks done candle hdone).mp (hone _ hprefix)
  · intro hblind done
    induction done using List.reverseRecOn with
    | nil =>
        intro _
        have hnone : openCount (positions k) = 0 :=
          List.countP_eq_zero.mpr fun p hp => by simp [hclosed p hp]
        show openCount (positions k) ≤ 1
        omega
    | append_singleton done event ih =>
        intro hprefix
        have hdone := ih ((List.prefix_append _ _).trans hprefix)
        cases event with
        | bar candle =>
            exact (openCount_bar hkeeps hk htracks done candle hdone).mpr
              (hblind done candle hprefix)
        | restart funds' r' =>
            rw [after_concat]
            exact hdone

/-- The bars and the restart of a run in which a position is opened, and closed again after the
process was restarted. -/
def closedAfterRestart : List (Happening Rat (Balances Rat) (List Signal)) :=
  [.bar .blank, .restart ⟨1000, 1000, 1⟩ [.advice .buy .closePosition], .bar .blank]

/-- There the position is found again and closed, and never more than one is open. -/
theorem one_open_when_closing_after_restart :
    openCount (after (.reciting Rat) (fixedBudget Rat) (storedExchange Rat)
      (.start ⟨1000, 1000, 1⟩ (.ofPositions [] fun _ => 1), [.advice .buy .openPosition])
      closedAfterRestart).1.exchange.positions = 0 ∧
    ∀ done, done <+: closedAfterRestart →
      openCount (after (.reciting Rat) (fixedBudget Rat) (storedExchange Rat)
        (.start ⟨1000, 1000, 1⟩ (.ofPositions [] fun _ => 1), [.advice .buy .openPosition])
        done).1.exchange.positions ≤ 1 := by
  refine ⟨by decide +kernel, ?_⟩
  have hempty : ∀ p ∈ (Stored.ofPositions [] fun _ => (1 : Rat)).positions, p.isOpen = false :=
    fun p hp => nomatch hp
  refine (one_open_iff_never_blindly _ _ storedExchange_keeps (Stored.sound_empty _) hempty _ _
    _).mpr ?_
  rintro done candle ⟨rest, hrest⟩ ⟨-, ⟨p, hp, -⟩, side, hsignal, -⟩
  match done with
  | [] => cases hp
  | [_] => cases hrest
  | [_, _] =>
      cases hrest
      cases hsignal
  | _ :: _ :: _ :: _ => simp [closedAfterRestart] at hrest

/-- A position is opened, the process is restarted, and the next advice to open leaves two
positions open. -/
theorem two_open_after_restart :
    openCount (after (.reciting Rat) (fixedBudget Rat) (storedExchange Rat)
      (.start ⟨1000, 1000, 1⟩ (.ofPositions [] fun _ => 1), [.advice .buy .openPosition])
      [.bar .blank, .restart ⟨1000, 1000, 1⟩ [.advice .buy .openPosition],
        .bar .blank]).1.exchange.positions = 2 := by
  decide +kernel

end Runs

end Live

end Crossover

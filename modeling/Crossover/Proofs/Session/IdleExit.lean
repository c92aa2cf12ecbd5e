import Crossover.Proofs.Session.Attending
import Crossover.Proofs.Session.Replayed

/-!
# Idle exit

The simulated trader attends to bars that arrive on a schedule. It handles the longest beginning
of the schedule in which each bar comes less than the idle time after the one before, and before
the stop and the close of the line; it leaves in peace at the first of the stop, the close and
the end of its idle time.
-/

namespace Crossover

variable {α γ ρ : Type}

/-- The longest beginning of the items in which each comes in time after the one before. -/
structure Limits.IsHeard (l : Limits) (items heard : List (Nat × γ)) : Prop where
  beginning : heard <+: items
  punctual : l.Punctual 0 heard
  longest : ∀ other, other <+: items → l.Punctual 0 other → other <+: heard

theorem Limits.isHeard_heard (l : Limits) (items : List (Nat × γ)) :
    l.IsHeard items (l.heard 0 items) :=
  ⟨l.heard_prefix 0 items, l.punctual_heard 0 items, fun _ => heard_longest⟩

namespace Simulated

variable [Scalar α]

/-- With a fixed budget a trader handles all bars, and is where a fold over them takes it. -/
theorem handleEach_work (rule : Rule α ρ) (bars : List (Candle α))
    {w : Working α (Balances α) ρ} (h : InOrder w.trader.ledger) :
    (Attendance.handleEach (work rule (fixedBudget α)) bars w).2 = .ok () ∧
      ((Attendance.handleEach (work rule (fixedBudget α)) bars w).1.trader,
          (Attendance.handleEach (work rule (fixedBudget α)) bars w).1.rule) =
        handleAll rule (fixedBudget α) bars (w.trader, w.rule) := by
  induction bars generalizing w with
  | nil => exact ⟨rfl, rfl⟩
  | cons bar bars ih =>
      obtain ⟨horder, hok⟩ := handle_fixedBudget bar rule w.rule h
      cases hwork : work rule (fixedBudget α) bar w with
      | mk w' result =>
          have hresult : (work rule (fixedBudget α) bar w).2 = .ok () := hok
          have hstate : (work rule (fixedBudget α) bar w).1.trader =
              (handle rule (fixedBudget α) bar (w.trader, w.rule)).1.state := rfl
          have hrule : (work rule (fixedBudget α) bar w).1.rule =
              (handle rule (fixedBudget α) bar (w.trader, w.rule)).2 := rfl
          rw [hwork] at hresult hstate hrule
          cases hresult
          rw [Attendance.handleEach_cons_ok hwork]
          obtain ⟨hdone, hfolded⟩ := ih (w := w') (by rw [hstate]; exact horder)
          refine ⟨hdone, hfolded.trans ?_⟩
          rw [hstate, hrule]
          rfl

def limits (idle : Nat) (stop close : Option Nat) : Limits := ⟨some idle, stop, close⟩

/-- How a trader comes out of a schedule: in peace, having asked its rule about the bars it
heard, where a fold over them takes it, and at the first time at which it may leave. -/
def ComesOut (rule : Rule α ρ) (r : ρ) (funds : Balances α) (l : Limits)
    (heard : List (Nat × Candle α)) (now : Nat) (e : Ending α)
    (a : Attendance α (Working α (Balances α) (ρ × List (Candle α)))) : Prop :=
  e = .returned (.ok ()) ∧ a.trader.rule.2 = heard.map Prod.snd ∧
    (a.trader.trader, a.trader.rule.1) =
      handleAll rule (fixedBudget α) (heard.map Prod.snd) (.start funds, r) ∧
    (l.ends (Limits.lastTime 0 heard)).min? = some now

theorem comesOut_of_leavesAs {rule : Rule α ρ} {r : ρ} {funds : Balances α} {l : Limits}
    {heard : List (Nat × Candle α)} {now : Nat} {e : Ending α}
    {a : Attendance α (Working α (Balances α) (ρ × List (Candle α)))}
    (h : Attendance.LeavesAs l
      (Attendance.handleEach (work rule.remembering (fixedBudget α)) (heard.map Prod.snd)
        (.begin (.start funds) (r, [])))
      (Limits.lastTime 0 heard) now e a) : ComesOut rule r funds l heard now e a := by
  have horder : InOrder (start funds : Simulated α _).ledger :=
    .resting fun p hp => absurd hp List.not_mem_nil
  obtain ⟨hdone, hfolded⟩ := handleEach_work rule.remembering (heard.map Prod.snd)
    (w := .begin (.start funds) (r, [])) horder
  obtain ⟨hending, htrader, htime⟩ := h
  rw [← htrader] at hfolded
  obtain ⟨hstate, hrule⟩ := Prod.mk.inj
    (hfolded.trans (handleAll_remembering rule (fixedBudget α) (heard.map Prod.snd) _ r []))
  refine ⟨by rw [hending, hdone], ?_, ?_, htime hdone⟩
  · rw [hrule, List.nil_append]
  · rw [hstate, hrule]
    rfl

/-- For every schedule, whatever the interleaving, a trader handles the bars it hears, each once
and in order, and then leaves; no bar may come just when it is stopped or its idle time is
over. -/
theorem exits_idle (rule : Rule α ρ) (r : ρ) (funds : Balances α) (idle : Nat)
    (stop close : Option Nat) (arrivals : List (Nat × Candle α))
    (hsorted : arrivals.Pairwise (·.1 ≤ ·.1)) (hstop : ∀ a ∈ arrivals, stop ≠ some a.1)
    (hidle : ∀ a ∈ arrivals,
      a.1 ≠ Limits.lastTime 0 ((limits idle stop close).heard 0 arrivals) + idle) :
    (limits idle stop close).IsHeard arrivals ((limits idle stop close).heard 0 arrivals) ∧
      Line.Leaves (Arrivals.task α (Candle α)) (task rule.remembering (fixedBudget α) idle)
        (.start (.begin arrivals close stop) (begin idle (.start funds) (r, [])))
        (ComesOut rule r funds (limits idle stop close)
          ((limits idle stop close).heard 0 arrivals)) := by
  refine ⟨Limits.isHeard_heard _ _, ?_⟩
  have hleaves := Attendance.leaves_arrivals (work rule.remembering (fixedBudget α))
    (limits idle stop close) (.inl (Option.some_ne_none idle)) arrivals
    (.begin (.start funds) (r, [])) hsorted hstop fun a ha d hd => by
      cases hd
      exact hidle a ha
  exact hleaves.mono fun now e a h => comesOut_of_leavesAs h

/-- Of bars at the times 3, 7 and 13 a trader with an idle time of 5 hears two, and leaves at 12,
before it is stopped at 20 and the line is closed at 40. -/
theorem exits_before_third_bar :
    Line.Leaves (Arrivals.task Float (Candle Float))
      (task (Rule.remembering ⟨fun _ => "buyer", fun _ _ => (.advice .buy .openPosition, ()),
        fun _ _ _ => none⟩) (fixedBudget Float) 5)
      (.start (.begin [(3, .blank), (7, .blank), (13, .blank)] (some 40) (some 20))
        (begin 5 (.start ⟨1000, 1000, 10⟩) ((), [])))
      (fun now e a => now = 12 ∧ e = .returned (.ok ()) ∧ a.trader.rule.2 = [.blank, .blank]) := by
  have hexits := exits_idle (α := Float)
    ⟨fun _ => "buyer", fun _ _ => (.advice .buy .openPosition, ()), fun _ _ _ => none⟩ ()
    ⟨1000, 1000, 10⟩ 5 (some 20) (some 40) [(3, .blank), (7, .blank), (13, .blank)]
    (by simp) (by simp) (by decide)
  refine hexits.2.mono fun now e a h => ?_
  obtain ⟨hending, hasked, -, htime⟩ := h
  exact ⟨(Option.some.inj htime).symm, hending, hasked⟩

end Simulated

end Crossover

import Mathlib.Data.List.Forall2
import Crossover.Proofs.Session.Replayed
import Crossover.Session.Replay

/-!
# A replayed session ends

Each step of a replayed session, but a stop signal given twice, brings it nearer to its end, and
until the end there is a step that is not the stop signal. So the session ends whatever the
interleaving, and the report that the runner then comes back with is that of a fold over the
bars.
-/

namespace Crossover

variable {α ρ : Type}

namespace Session

def countdown (w : Replaying α ρ) : Nat :=
  match w.line.receiver.presence with
  | .waiting (some d) => d - w.line.now + 1
  | _ => 0

/-- What is left to do. A bar counts for two, one for each hand it goes through, and each time it
outweighs the idle time that starts anew. -/
def outstanding (idle : Nat) (w : Replaying α ρ) : Nat :=
  (2 * w.line.sender.pending.length + w.line.slot.toList.length) * (idle + 1) +
    (if w.line.sender.ending.isNone then 1 else 0) + distance w.watch

/-- What is left to happen: the passing of time counts too. -/
def remaining (idle : Nat) (w : Replaying α ρ) : Nat :=
  outstanding idle w + countdown w

theorem countdown_waiting {w : Replaying α ρ} {d : Nat}
    (h : w.line.receiver.presence = .waiting (some d)) : countdown w = d - w.line.now + 1 := by
  simp only [countdown, h]

section Remaining

variable {w : Replaying α ρ}

theorem remaining_feedLeaves (idle : Nat) (hS : w.line.sender.ending = none) :
    remaining idle { w with line := { w.line with sender := .left (.ok ()) } } <
      remaining idle w := by
  have hweight : (2 * 0 + w.line.slot.toList.length) * (idle + 1) ≤
      (2 * w.line.sender.pending.length + w.line.slot.toList.length) * (idle + 1) :=
    Nat.mul_le_mul_right _ (by omega)
  have hcount : countdown { w with line := { w.line with sender := .left (.ok ()) } } =
      countdown w := rfl
  simp only [remaining, outstanding, hcount, Recorded.pending_left, List.length_nil,
    Recorded.ending_left, hS, Option.isNone_some, Option.isNone_none, Bool.false_eq_true, if_false,
    if_true]
  omega

theorem remaining_feedSends (idle : Nat) {item : Candle α} {rest : List (Candle α)}
    (hs : w.line.sender = .handing item rest) (hslot : w.line.slot = none) :
    remaining idle
        { w with line := { w.line with slot := some item, sender := Recorded.send rest } } <
      remaining idle w := by
  have hweight : (2 * (rest.length + 1) + 0) * (idle + 1) =
      (2 * rest.length + 1) * (idle + 1) + (idle + 1) := by
    rw [← Nat.succ_mul]
    congr 1
  have hcount : countdown
      { w with line := { w.line with slot := some item, sender := Recorded.send rest } } =
        countdown w := rfl
  simp only [remaining, outstanding, hcount, hs, hslot, Recorded.pending_send, Recorded.ending_send,
    Recorded.pending_handing, Recorded.ending_handing, Option.toList_some, Option.toList_none,
    List.length_cons, List.length_nil, Nat.zero_add, hweight]
  omega

theorem remaining_traderLeaves (idle : Nat) {why : Leaving α} {d : Nat}
    (hdue : w.line.receiver.presence = .waiting (some d)) :
    remaining idle { w with line := { w.line with receiver := w.line.receiver.leave why } } <
      remaining idle w := by
  have hcount := countdown_waiting hdue
  have hcount' : countdown
      { w with line := { w.line with receiver := w.line.receiver.leave why } } = 0 := rfl
  simp only [remaining, outstanding, hcount, hcount']
  omega

theorem remaining_runnerMoves (idle : Nat) {watch : Watch}
    (h : distance watch < distance w.watch) :
    remaining idle { w with watch := watch } < remaining idle w := by
  have hcount : countdown { w with watch := watch } = countdown w := rfl
  simp only [remaining, outstanding, hcount]
  omega

end Remaining

variable [Scalar α]

namespace Follows

variable {rule : Rule α ρ} {s : Simulated α (Balances α) × ρ} {bars : List (Candle α)}
  {w : Replaying α ρ} {asked dropped : List (Candle α)}

theorem remaining_traderTakes {idle d : Nat} {item : Candle α} {rule : Rule α ρ}
    (hslot : w.line.slot = some item) (hdue : w.line.receiver.presence = .waiting (some d))
    (horder : Simulated.InOrder w.line.receiver.trader.trader.ledger) :
    remaining idle { w with line := { w.line with
        slot := none
        receiver := w.line.receiver.take (Simulated.work rule (fixedBudget α)) (some idle) item
          w.line.now } } <
      remaining idle w := by
  have hpresence := (Simulated.take_work rule idle item w.line.now horder).1
  have hcount := countdown_waiting hdue
  have hcount' := countdown_waiting (w := { w with line := { w.line with
    slot := none
    receiver := w.line.receiver.take (Simulated.work rule (fixedBudget α)) (some idle) item
      w.line.now } }) hpresence
  have hweight : (2 * w.line.sender.pending.length + 1) * (idle + 1) =
      (2 * w.line.sender.pending.length + 0) * (idle + 1) + (idle + 1) := Nat.succ_mul _ _
  simp only [remaining, outstanding, hcount, hcount', hslot, Option.toList_some, Option.toList_none,
    List.length_cons, List.length_nil, hweight]
  omega

theorem remaining_wait {idle due : Nat} (h : Follows rule s bars w asked dropped)
    (hover : ∀ ended, w.watch ≠ .finished ended)
    (hm : moves (Recorded.task α) (Simulated.task rule (fixedBudget α) idle) w = [])
    (hlate : w.line.now < due)
    (hleast : ∀ d ∈ (Recorded.task α).dues w.line.sender ++
      (Simulated.task rule (fixedBudget α) idle).dues w.line.receiver, w.line.now < d → due ≤ d) :
    remaining idle (w.passTo due) < remaining idle w := by
  obtain ⟨due', hdue⟩ := waiting_of_no_moves hm hover
  obtain ⟨-, -, d, rfl, hd⟩ := h.rest_of_no_moves hm hdue
  have hle : due ≤ d := hleast d (by simp [Simulated.task, Attendance.dues_waiting hdue]) hd
  have hcount := countdown_waiting hdue
  have hcount' : countdown (w.passTo due) = d - due + 1 := countdown_waiting hdue
  have hsame : outstanding idle (w.passTo due) = outstanding idle w := rfl
  rw [remaining, remaining, hsame, hcount, hcount']
  omega

theorem remaining_move {idle : Nat} {w' : Replaying α ρ} (h : Follows rule s bars w asked dropped)
    (horder : Simulated.InOrder s.1.ledger)
    (hmove : w' ∈ moves (Recorded.task α) (Simulated.task rule (fixedBudget α) idle) w) :
    remaining idle w' < remaining idle w := by
  rcases moves_cases hmove with ⟨l, hl, rfl⟩ | ⟨l, hl, rfl⟩ | hrunner
  · rcases Recorded.senderMoves_cases hl with
      ⟨-, hS, rfl⟩ | ⟨item, rest, hs, ⟨-, rfl⟩ | ⟨-, hslot, rfl⟩⟩
    · exact remaining_feedLeaves idle hS
    · exact remaining_feedLeaves idle (by rw [hs]; rfl)
    · exact remaining_feedSends idle hs hslot
  · obtain ⟨due, hdue, hcases⟩ := Attendance.receiverMoves_cases hl
    obtain ⟨d, rfl, -⟩ := h.timed due hdue
    rcases hcases with ⟨item, hslot, rfl⟩ | ⟨-, -, rfl⟩ | ⟨-, rfl⟩ | ⟨-, -, -, rfl⟩
    · exact remaining_traderTakes hslot hdue (h.inOrder horder)
    · exact remaining_traderLeaves idle hdue
    · exact remaining_traderLeaves idle hdue
    · exact remaining_traderLeaves idle hdue
  · rcases runnerMoves_cases hrunner with ⟨hw, ended, rfl, -⟩ | ⟨ended, hw, -, -, rfl⟩
    · exact remaining_runnerMoves idle (by rw [hw]; exact Nat.lt_succ_self _)
    · exact remaining_runnerMoves idle (by rw [hw]; exact Nat.lt_succ_self _)

theorem remaining_proceeds {idle : Nat} {w' : Replaying α ρ}
    (h : Follows rule s bars w asked dropped) (horder : Simulated.InOrder s.1.ledger)
    (hover : ∀ ended, w.watch ≠ .finished ended)
    (hstep : Proceeds (Recorded.task α) (Simulated.task rule (fixedBudget α) idle) w w') :
    remaining idle w' < remaining idle w := by
  obtain ⟨hnext, hne, hsame⟩ := hstep
  cases hnext with
  | move hmove => exact h.remaining_move horder hmove
  | fire =>
      obtain ⟨line, signalled, watch⟩ := w
      cases hsame
      exact absurd rfl hne
  | wait hm hlate hleast => exact h.remaining_wait hover hm hlate hleast

/-- Until the runner has finished, something goes on that is not the stop signal. -/
theorem exists_proceeds (idle : Nat) (h : Follows rule s bars w asked dropped)
    (horder : Simulated.InOrder s.1.ledger) (hover : ∀ ended, w.watch ≠ .finished ended) :
    ∃ w', Proceeds (Recorded.task α) (Simulated.task rule (fixedBudget α) idle) w w' := by
  by_cases hm : moves (Recorded.task α) (Simulated.task rule (fixedBudget α) idle) w = []
  · obtain ⟨due, hdue⟩ := waiting_of_no_moves hm hover
    obtain ⟨-, -, d, rfl, hd⟩ := h.rest_of_no_moves hm hdue
    refine ⟨w.passTo d, .wait hm hd ?_, fun hsame => ?_, rfl⟩
    · intro d' hd' _
      rw [Recorded.dues_task, Simulated.task, Attendance.dues_waiting hdue] at hd'
      exact Nat.le_of_eq (List.mem_singleton.mp hd').symm
    · have hnow : d = w.line.now := congrArg (fun v => v.line.now) hsame
      omega
  · obtain ⟨w', hmove⟩ := List.exists_mem_of_ne_nil _ hm
    have hless := h.remaining_move horder hmove
    exact ⟨w', .move hmove, fun hsame => by rw [hsame] at hless; omega,
      signalled_of_mem_moves hmove⟩

/-- When the runner has finished there is a report, and it is a good one. -/
theorem conclude {idle : Nat} {ended : Ended} (h : Follows rule s bars w asked dropped)
    (hw : w.watch = .finished ended) (lent : Strategy ρ) :
    Strategy.conclude (Recorded.task α) (Simulated.task rule (fixedBudget α) idle)
        (fun t => t.trader.rule) w lent =
      some ⟨lent.regain (some w.line.receiver.trader.rule), some w, .ok ()⟩ := by
  obtain ⟨hS, hT⟩ := h.bothEnded ended hw
  obtain ⟨feed, hfeed⟩ := Option.ne_none_iff_exists'.mp hS
  obtain ⟨trader, htrader⟩ := Option.ne_none_iff_exists'.mp hT
  have hfeedOk := h.feedOk feed hfeed
  have htraderOk := h.traderOk trader htrader
  subst hfeedOk htraderOk
  cases ended <;>
    simp [Strategy.conclude, outcome?, hw, hfeed, Simulated.task, htrader, outcome, joined,
      Strategy.returnedRule] <;> rfl

theorem finished_of_conclude {idle : Nat} {lent : Strategy ρ}
    {report : Strategy.Report α ρ (Candle α) (Recorded α)
      (Attendance α (Simulated.Working α (Balances α) ρ))}
    (h : Strategy.conclude (Recorded.task α) (Simulated.task rule (fixedBudget α) idle)
      (fun t => t.trader.rule) w lent = some report) : ∃ ended, w.watch = .finished ended := by
  obtain ⟨result, hresult, -⟩ := Option.map_eq_some_iff.mp h
  unfold outcome? at hresult
  split at hresult
  · next ended _ _ hw _ _ => exact ⟨ended, hw⟩
  · cases hresult

/-- Nobody gave the stop signal, so every bar was seen. -/
theorem asked_all {ended : Ended} (h : Follows rule s bars w asked dropped)
    (hw : w.watch = .finished ended) (hsig : w.signalled = false) : asked = bars := by
  have hcalm := h.calm hsig
  obtain ⟨hslot, hpending⟩ := hcalm.exhausted (h.bothEnded ended hw).2
  have hsplit := h.split
  rw [hslot, hpending, hcalm.complete] at hsplit
  simpa using hsplit

/-- Whatever the interleaving, the session comes to a report. -/
theorem inevitable {idle : Nat} (h : Follows rule s bars w asked dropped)
    (horder : Simulated.InOrder s.1.ledger) (hidle : 0 < idle) (lent : Strategy ρ) :
    Inevitable (Proceeds (Recorded.task α) (Simulated.task rule (fixedBudget α) idle))
      (fun w' => (Strategy.conclude (Recorded.task α) (Simulated.task rule (fixedBudget α) idle)
        (fun t => t.trader.rule) w' lent).isSome) w := by
  refine .of_shrinking (fun w' => ∃ asked' dropped', Follows rule s bars w' asked' dropped')
    (remaining idle) ?_ ?_ ?_ ⟨asked, dropped, h⟩
  · rintro w₁ ⟨_, _, h₁⟩ hgoal
    refine h₁.exists_proceeds idle horder fun ended hw => hgoal ?_
    rw [h₁.conclude hw lent]
    rfl
  · rintro w₁ w₂ ⟨_, _, h₁⟩ hstep
    exact h₁.next horder hidle hstep.1
  · rintro w₁ w₂ ⟨_, _, h₁⟩ hgoal hstep
    refine h₁.remaining_proceeds horder (fun ended hw => hgoal ?_) hstep
    rw [h₁.conclude hw lent]
    rfl

end Follows

end Session

namespace Candle

/-- A bar as it was read, but for the market it is of: that is the pair's. -/
structure BarOf {α : Type} (pair : Pair) (read bar : Candle α) : Prop where
  symbol : bar.symbol = pair.symbol
  symbolId : bar.symbolId = pair.symbolId
  interval : bar.interval = pair.interval
  id : bar.id = read.id
  openTime : bar.openTime = read.openTime
  openPrice : bar.openPrice = read.openPrice
  closePrice : bar.closePrice = read.closePrice
  closeTime : bar.closeTime = read.closeTime
  low : bar.low = read.low
  high : bar.high = read.high
  volume : bar.volume = read.volume

theorem barOf_relabel (pair : Pair) (c : Candle α) : BarOf pair c (c.relabel pair) :=
  ⟨rfl, rfl, rfl, rfl, rfl, rfl, rfl, rfl, rfl, rfl, rfl⟩

theorem forall₂_barOf (pair : Pair) (bars : List (Candle α)) :
    List.Forall₂ (BarOf pair) bars (bars.map (relabel pair)) := by
  induction bars with
  | nil => exact .nil
  | cons bar bars ih => exact .cons (barOf_relabel pair bar) ih

theorem map_market_of_barOf {pair : Pair} {bars handed : List (Candle α)}
    (h : List.Forall₂ (BarOf pair) bars handed) :
    handed.map (fun bar => (bar.symbol, bar.symbolId, bar.interval)) =
      List.replicate bars.length (pair.symbol, pair.symbolId, pair.interval) := by
  induction h with
  | nil => rfl
  | cons hbar _ ih =>
      rw [List.map_cons, ih, hbar.symbol, hbar.symbolId, hbar.interval, List.length_cons,
        List.replicate_succ]

end Candle

namespace Replay

/-- The task of a simulated trader that keeps the bars its rule was asked about. -/
abbrev trading (rule : Rule Float ρ) (idle : Nat) :
    Task Float (Candle Float) (Attendance Float
      (Simulated.Working Float (Balances Float) (ρ × List (Candle Float)))) :=
  Simulated.task rule.remembering (fixedBudget Float) idle

def newcomer (idle : Nat) (funds : Balances Float) (rule : ρ × List (Candle Float)) :
    Attendance Float (Simulated.Working Float (Balances Float) (ρ × List (Candle Float))) :=
  Simulated.begin idle (.start funds) rule

/-- What a session of a feed comes to, over these bars: a report of success, whatever the
interleaving and whenever the stop signal comes. -/
structure RefinesFold (rule : Rule Float ρ) (r : ρ) (funds : Balances Float) (idle : Nat)
    (feed : Recorded Float) (bars : List (Candle Float)) : Prop where
  /-- The rule was asked about the first of the bars, each once and in order; it and the trader
  are where a fold over these takes them. Without a stop signal these are all the bars. -/
  folds : ∀ report, Strategy.Reports (Recorded.task Float) (trading rule idle)
      (fun t => t.trader.rule) feed (newcomer idle funds) (.ofRule (r, [])) report →
    ∃ w asked r', report = ⟨⟨some (r', asked), .stopped⟩, some w, .ok ()⟩ ∧ asked <+: bars ∧
      (w.line.receiver.trader.trader, r') =
        Simulated.handleAll rule (fixedBudget Float) asked (.start funds, r) ∧
      (w.signalled = false → asked = bars)
  /-- From wherever the session has come to, it comes to a report, stop signal or not. -/
  ends : ∀ w, Session.Reaches (Recorded.task Float) (trading rule idle)
      (.start feed (newcomer idle funds (r, []))) w →
    Inevitable (Session.Proceeds (Recorded.task Float) (trading rule idle))
      (fun w' => (Strategy.conclude (Recorded.task Float) (trading rule idle)
        (fun t => t.trader.rule) w' (Strategy.ofRule (r, [])).lent).isSome) w

/-- A session over the bars of a file, each as a bar of the pair, refines a fold over them. -/
theorem session_refines_fold (rule : Rule Float ρ) (r : ρ) (funds : Balances Float) (pair : Pair)
    {idle : Nat} (hidle : 0 < idle) (files : Files) (path : String) {text : String}
    {bars : List (Candle Float)} (hfile : files path = .ok text)
    (hparse : Kline.parse text = .ok bars) :
    ∃ handed, List.Forall₂ (Candle.BarOf pair) bars handed ∧
      RefinesFold rule r funds idle (.begin (load files path pair)) handed := by
  refine ⟨bars.map (Candle.relabel pair), Candle.forall₂_barOf pair bars, ?_⟩
  have hload : load files path pair = .ok (bars.map (Candle.relabel pair)) := by
    simp only [load, hfile, hparse]
  have horder : Simulated.InOrder (Simulated.start funds : Simulated Float _).ledger :=
    .resting fun p hp => absurd hp List.not_mem_nil
  rw [hload]
  have hstart : Session.Follows rule.remembering (.start funds, (r, []))
      (bars.map (Candle.relabel pair)) (.start (.begin (.ok (bars.map (Candle.relabel pair))))
        (newcomer idle funds (r, []))) [] [] :=
    .start _ hidle
  constructor
  · intro report hreport
    cases hreport with
    | refused hnone => cases hnone
    | @ran rule' w _ hrule hrun hreport =>
        cases hrule
        obtain ⟨asked, dropped, hw⟩ := hstart.reaches horder hidle hrun
        obtain ⟨ended, hended⟩ := Session.Follows.finished_of_conclude hreport
        rw [hw.conclude hended] at hreport
        have hfolded := hw.folded
        rw [Simulated.handleAll_remembering, List.nil_append] at hfolded
        obtain ⟨htrader, hrule⟩ := Prod.mk.inj hfolded
        refine ⟨w, asked, (Simulated.handleAll rule (fixedBudget Float) asked (.start funds, r)).2,
          ?_, ⟨_, hw.split⟩, ?_, hw.asked_all hended⟩
        · rw [← Option.some.inj hreport, hrule]
          rfl
        · rw [htrader]
  · intro w hrun
    obtain ⟨asked, dropped, hw⟩ := hstart.reaches horder hidle hrun
    exact hw.inevitable horder hidle _

/-- A file of two bars, and a rule that wants a position opened after each. -/
theorem two_bars_refine_fold : ∃ bars handed,
    Kline.parse "[[0,1,2,1,2,5,9],[10,2,3,1,3,5,19]]" = .ok bars ∧ bars.length = 2 ∧
      List.Forall₂ (Candle.BarOf ⟨"BNBUSDT", "bnb", "1h", 0⟩) bars handed ∧
      handed.map (fun bar => (bar.symbol, bar.symbolId, bar.interval)) =
        [("BNBUSDT", "bnb", "1h"), ("BNBUSDT", "bnb", "1h")] ∧
      RefinesFold ⟨fun _ => "buyer", fun _ _ => (.advice .buy .openPosition, ()), fun _ _ _ => none⟩
        () ⟨1000, 0, 10⟩ 60000
        (.begin (load (fun _ => .ok "[[0,1,2,1,2,5,9],[10,2,3,1,3,5,19]]") "bars.json"
          ⟨"BNBUSDT", "bnb", "1h", 0⟩)) handed := by
  have hlength : (Kline.parse "[[0,1,2,1,2,5,9],[10,2,3,1,3,5,19]]").toOption.map List.length =
      some 2 := by
    decide +kernel
  cases hparse : Kline.parse "[[0,1,2,1,2,5,9],[10,2,3,1,3,5,19]]" with
  | error f =>
      rw [hparse] at hlength
      cases hlength
  | ok bars =>
      rw [hparse] at hlength
      have htwo : bars.length = 2 := Option.some.inj hlength
      obtain ⟨handed, hbars, hrefines⟩ := session_refines_fold
        ⟨fun _ => "buyer", fun _ _ => (.advice .buy .openPosition, ()), fun _ _ _ => none⟩ ()
        ⟨1000, 0, 10⟩ ⟨"BNBUSDT", "bnb", "1h", 0⟩ (by decide : 0 < 60000)
        (fun _ => .ok "[[0,1,2,1,2,5,9],[10,2,3,1,3,5,19]]") "bars.json" rfl hparse
      refine ⟨bars, handed, rfl, htwo, hbars, ?_, hrefines⟩
      rw [Candle.map_market_of_barOf hbars, htwo]
      rfl

end Replay

end Crossover

import Mathlib.Tactic.ByContra
import Crossover.Proofs.Session.Inevitable
import Crossover.Proofs.Session.Moves
import Crossover.Proofs.Trading.Ledger
import Crossover.Session.Replay
import Crossover.Session.Work

/-!
# A replayed session

A recorded feed and a simulated trader share a line of one slot. However the two, the runner and
the stop signal interleave, the bars handed over, the bar in the slot and the bars the feed still
holds make up the recorded bars in order, and the trader is where it would be had it been fed
the bars it has seen one after the other. As long as nobody gives the stop signal no bar is
given up.
-/

namespace Crossover

variable {α ρ : Type}

/-- The rule, with the bars it was asked about so far. -/
def Rule.remembering (rule : Rule α ρ) : Rule α (ρ × List (Candle α)) where
  name s := rule.name s.1
  advise s bar := ((rule.advise s.1 bar).1, ((rule.advise s.1 bar).2, s.2 ++ [bar]))
  remark s bar signal := rule.remark s.1 bar signal

namespace Simulated

variable {β : Type} [Scalar α]

/-- A rule that remembers advises as before, and remembers exactly the bars of the run. -/
theorem handleAll_remembering (rule : Rule α ρ) (budget : Budget α β) (bars : List (Candle α))
    (s : Simulated α β) (r : ρ) (asked : List (Candle α)) :
    handleAll rule.remembering budget bars (s, (r, asked)) =
      ((handleAll rule budget bars (s, r)).1,
        ((handleAll rule budget bars (s, r)).2, asked ++ bars)) := by
  induction bars generalizing s r asked with
  | nil => simp
  | cons bar bars ih =>
      have hstep := ih (handle rule budget bar (s, r)).1.state (rule.advise r bar).2
        (asked ++ [bar])
      rw [List.append_assoc] at hstep
      exact hstep

/-- The trader takes a bar, and its idle time starts anew. -/
theorem take_work (rule : Rule α ρ) (idle : Nat) (bar : Candle α) (now : Nat)
    {a : Attendance α (Working α (Balances α) ρ)} (h : InOrder a.trader.trader.ledger) :
    (a.take (work rule (fixedBudget α)) (some idle) bar now).presence =
        .waiting (some (now + idle)) ∧
      ((a.take (work rule (fixedBudget α)) (some idle) bar now).trader.trader,
          (a.take (work rule (fixedBudget α)) (some idle) bar now).trader.rule) =
        handleAll rule (fixedBudget α) [bar] (a.trader.trader, a.trader.rule) := by
  have hok : (work rule (fixedBudget α) bar a.trader).2 = .ok () :=
    (handle_fixedBudget bar rule a.trader.rule h).2
  have htake : a.take (work rule (fixedBudget α)) (some idle) bar now =
      ⟨(work rule (fixedBudget α) bar a.trader).1, .waiting (some (now + idle))⟩ := by
    unfold Attendance.take
    cases hw : work rule (fixedBudget α) bar a.trader with
    | mk trader result =>
        rw [hw] at hok
        cases hok
        rfl
  rw [htake]
  exact ⟨rfl, rfl⟩

end Simulated

namespace Recorded

def pending : Recorded α → List (Candle α)
  | .handing item rest => item :: rest
  | .waiting => []
  | .left _ => []

@[simp] theorem pending_handing (item : Candle α) (rest : List (Candle α)) :
    (handing item rest).pending = item :: rest := rfl

@[simp] theorem pending_left (result : Except (Failure α) Unit) :
    (left result).pending = [] := rfl

@[simp] theorem pending_send (items : List (Candle α)) : (send items).pending = items := by
  cases items <;> rfl

@[simp] theorem ending_handing (item : Candle α) (rest : List (Candle α)) :
    (handing item rest).ending = none := rfl

@[simp] theorem ending_left (result : Except (Failure α) Unit) :
    (left result).ending = some (.returned result) := rfl

@[simp] theorem ending_send (items : List (Candle α)) : (send items).ending = none := by
  cases items <;> rfl

end Recorded

namespace Session

abbrev Replaying (α ρ : Type) : Type :=
  Session (Candle α) (Recorded α) (Attendance α (Simulated.Working α (Balances α) ρ))

/-- As long as nobody has given the stop signal no bar is given up, the trader leaves only when
there is nothing more to see, and the runner and the feed only after it. -/
structure Undisturbed (w : Replaying α ρ) (dropped : List (Candle α)) : Prop where
  complete : dropped = []
  exhausted : w.line.receiver.ending ≠ none → w.line.slot = none ∧ w.line.sender.pending = []
  traderFirst : w.watch ≠ .watching → w.line.receiver.ending ≠ none
  feedLast : w.watch = .watching → w.line.sender.ending = none

variable [Scalar α]

/-- The invariant of a replayed session: of the recorded bars the trader has been asked about
the first ones, and is where these have brought it; then come the bar in the slot, the bars the
feed still holds, and those it gave up when it left. -/
structure Follows (rule : Rule α ρ) (s : Simulated α (Balances α) × ρ) (bars : List (Candle α))
    (w : Replaying α ρ) (asked dropped : List (Candle α)) : Prop where
  split : asked ++ (w.line.slot.toList ++ (w.line.sender.pending ++ dropped)) = bars
  folded : (w.line.receiver.trader.trader, w.line.receiver.trader.rule) =
    Simulated.handleAll rule (fixedBudget α) asked s
  feedOk : ∀ e, w.line.sender.ending = some e → e = .returned (.ok ())
  traderOk : ∀ e, w.line.receiver.ending = some e → e = .returned (.ok ())
  timed : ∀ due, w.line.receiver.presence = .waiting due → ∃ d, due = some d ∧
    (w.line.slot ≠ none ∨ w.line.sender.pending ≠ [] → w.line.now < d)
  bothEnded : ∀ ended, w.watch = .finished ended →
    w.line.sender.ending ≠ none ∧ w.line.receiver.ending ≠ none
  calm : w.signalled = false → Undisturbed w dropped

namespace Follows

variable {rule : Rule α ρ} {s : Simulated α (Balances α) × ρ} {bars : List (Candle α)}
  {w : Replaying α ρ} {asked dropped : List (Candle α)}

theorem start (items : List (Candle α)) {idle : Nat} (hidle : 0 < idle) :
    Follows rule s items
      (.start (Recorded.begin (.ok items)) (Simulated.begin idle s.1 s.2)) [] [] where
  split := by simp [Session.start, Line.start, Recorded.begin]
  folded := rfl
  feedOk e he := by simp [Session.start, Line.start, Recorded.begin] at he
  traderOk e he := by cases he
  timed due hdue := ⟨0 + idle, (Presence.waiting.inj hdue).symm, fun _ => by
    simpa [Session.start, Line.start] using hidle⟩
  bothEnded ended he := by cases he
  calm _ :=
    { complete := rfl
      exhausted := fun h => absurd rfl h
      traderFirst := fun h => absurd rfl h
      feedLast := fun _ => by simp [Session.start, Line.start, Recorded.begin] }

theorem inOrder (h : Follows rule s bars w asked dropped)
    (horder : Simulated.InOrder s.1.ledger) :
    Simulated.InOrder w.line.receiver.trader.trader.ledger := by
  have hfst : w.line.receiver.trader.trader =
      (Simulated.handleAll rule (fixedBudget α) asked s).1 := congrArg Prod.fst h.folded
  rw [hfst]
  exact Simulated.inOrder_handleAll rule (fixedBudget α) asked horder

/-- The feed leaves and gives up what it holds. -/
theorem feedLeaves (h : Follows rule s bars w asked dropped)
    (hcalm : w.signalled = false → w.watch ≠ .watching ∧ w.line.sender.pending = []) :
    Follows rule s bars { w with line := { w.line with sender := .left (.ok ()) } } asked
      (w.line.sender.pending ++ dropped) where
  split := by simpa using h.split
  folded := h.folded
  feedOk e he := (Option.some.inj he).symm
  traderOk := h.traderOk
  timed due hdue := by
    obtain ⟨d, hd, hlate⟩ := h.timed due hdue
    exact ⟨d, hd, fun hrest => hlate (hrest.imp_right fun hp => absurd rfl hp)⟩
  bothEnded ended he := ⟨fun hnone => (nomatch hnone), (h.bothEnded ended he).2⟩
  calm hs := by
    obtain ⟨hwatch, hpending⟩ := hcalm hs
    have hold := h.calm hs
    exact
      { complete := by rw [hpending, hold.complete, List.append_nil]
        exhausted := fun he => ⟨(hold.exhausted he).1, rfl⟩
        traderFirst := hold.traderFirst
        feedLast := fun hw => absurd hw hwatch }

theorem feedSends {item : Candle α} {rest : List (Candle α)}
    (h : Follows rule s bars w asked dropped) (hs : w.line.sender = .handing item rest)
    (hslot : w.line.slot = none) (hT : w.line.receiver.ending = none) :
    Follows rule s bars
      { w with line := { w.line with slot := some item, sender := Recorded.send rest } }
      asked dropped where
  split := by
    have hsplit := h.split
    rw [hs, hslot] at hsplit
    simpa using hsplit
  folded := h.folded
  feedOk e he := by simp at he
  traderOk := h.traderOk
  timed due hdue := by
    obtain ⟨d, hd, hlate⟩ := h.timed due hdue
    exact ⟨d, hd, fun _ => hlate (.inr (by simp [hs]))⟩
  bothEnded ended he := absurd hT (h.bothEnded ended he).2
  calm hsig := by
    have hold := h.calm hsig
    exact
      { complete := hold.complete
        exhausted := fun he => absurd hT he
        traderFirst := hold.traderFirst
        feedLast := fun _ => Recorded.ending_send rest }

theorem traderTakes {idle : Nat} {item : Candle α} {due : Option Nat}
    (h : Follows rule s bars w asked dropped) (horder : Simulated.InOrder s.1.ledger)
    (hidle : 0 < idle) (hslot : w.line.slot = some item)
    (hdue : w.line.receiver.presence = .waiting due) :
    Follows rule s bars
      { w with line := { w.line with
        slot := none
        receiver := w.line.receiver.take (Simulated.work rule (fixedBudget α)) (some idle) item
          w.line.now } } (asked ++ [item]) dropped := by
  obtain ⟨hpresence, hstate⟩ := Simulated.take_work rule idle item w.line.now (h.inOrder horder)
  have hending := Attendance.ending_waiting hpresence
  exact
    { split := by
        have hsplit := h.split
        rw [hslot] at hsplit
        simpa using hsplit
      folded := by rw [hstate, h.folded, Simulated.handleAll_append]
      feedOk := h.feedOk
      traderOk := fun e he => by rw [hending] at he; cases he
      timed := fun due' hdue' => by
        rw [hpresence] at hdue'
        exact ⟨w.line.now + idle, (Presence.waiting.inj hdue').symm, fun _ => by
          show w.line.now < w.line.now + idle
          omega⟩
      bothEnded := fun ended he => absurd (Attendance.ending_waiting hdue) (h.bothEnded ended he).2
      calm := fun hsig => by
        have hold := h.calm hsig
        have hwatch : ¬ w.watch ≠ .watching :=
          fun hw => hold.traderFirst hw (Attendance.ending_waiting hdue)
        exact
          { complete := hold.complete
            exhausted := fun he => absurd hending he
            traderFirst := fun hw => absurd hw hwatch
            feedLast := hold.feedLast } }

/-- The trader leaves, and not for a failure. -/
theorem traderLeaves {why : Leaving α} (h : Follows rule s bars w asked dropped)
    (hwhy : ∀ f, why ≠ .failed f)
    (hcalm : w.signalled = false → w.line.slot = none ∧ w.line.sender.pending = []) :
    Follows rule s bars { w with line := { w.line with receiver := w.line.receiver.leave why } }
      asked dropped where
  split := h.split
  folded := h.folded
  feedOk := h.feedOk
  traderOk e he := by
    cases why with
    | failed f => exact absurd rfl (hwhy f)
    | stopped => exact (Option.some.inj he).symm
    | closed => exact (Option.some.inj he).symm
    | idle => exact (Option.some.inj he).symm
  timed due hdue := by cases hdue
  bothEnded ended he := ⟨(h.bothEnded ended he).1, Attendance.ending_leave why⟩
  calm hsig := by
    have hold := h.calm hsig
    exact
      { complete := hold.complete
        exhausted := fun _ => hcalm hsig
        traderFirst := fun _ => Attendance.ending_leave why
        feedLast := hold.feedLast }

/-- The runner goes on, and sees the trader leave first unless the stop signal was given. -/
theorem runnerMoves (h : Follows rule s bars w asked dropped) {watch : Watch}
    (hwatch : watch ≠ .watching)
    (hover : ∀ ended, watch = .finished ended →
      w.line.sender.ending ≠ none ∧ w.line.receiver.ending ≠ none)
    (hcalm : w.signalled = false → w.line.receiver.ending ≠ none) :
    Follows rule s bars { w with watch := watch } asked dropped where
  split := h.split
  folded := h.folded
  feedOk := h.feedOk
  traderOk := h.traderOk
  timed := h.timed
  bothEnded := hover
  calm hsig := by
    have hold := h.calm hsig
    exact
      { complete := hold.complete
        exhausted := hold.exhausted
        traderFirst := fun _ => hcalm hsig
        feedLast := fun hw => absurd hw hwatch }

/-- Where nobody can move, a trader at its post has nothing to take and its idle time is not
over. -/
theorem rest_of_no_moves {idle : Nat} {due : Option Nat} (h : Follows rule s bars w asked dropped)
    (hm : moves (Recorded.task α) (Simulated.task rule (fixedBudget α) idle) w = [])
    (hdue : w.line.receiver.presence = .waiting due) :
    w.line.slot = none ∧ w.line.sender.pending = [] ∧ ∃ d, due = some d ∧ w.line.now < d := by
  have hslot : w.line.slot = none := by
    cases hslot : w.line.slot with
    | none => rfl
    | some item =>
        exact absurd hm (moves_of_receiver (Attendance.take_mem_receiverMoves hdue hslot))
  have hending := Attendance.ending_waiting hdue
  have hpending : w.line.sender.pending = [] := by
    cases hs : w.line.sender with
    | handing item rest =>
        have hholds : (Simulated.task rule (fixedBudget α) idle).holdsLine w.line.receiver =
            true := by
          rw [Simulated.task, Attendance.task_holdsLine, hending]
          rfl
        exact absurd hm (moves_of_sender (Recorded.sent_mem_senderMoves hs hholds hslot))
    | waiting => rfl
    | left result => rfl
  obtain ⟨d, hd, -⟩ := h.timed due hdue
  refine ⟨hslot, hpending, d, hd, ?_⟩
  by_cases hlate : d ≤ w.line.now
  · exact absurd hm (moves_of_receiver (Attendance.idle_mem_receiverMoves (hd ▸ hdue) hlate))
  · omega

/-- Where nobody can move, the trader is at its post or the session is over. -/
theorem waiting_of_no_moves {idle : Nat}
    (hm : moves (Recorded.task α) (Simulated.task rule (fixedBudget α) idle) w = [])
    (hover : ∀ ended, w.watch ≠ .finished ended) :
    ∃ due, w.line.receiver.presence = .waiting due := by
  cases hT : w.line.receiver.ending with
  | none => exact Attendance.ending_eq_none hT
  | some e =>
      have hended : (Simulated.task rule (fixedBudget α) idle).hasEnded w.line.receiver = true := by
        rw [Simulated.task, Attendance.hasEnded_task, hT]
        rfl
      cases hw : w.watch with
      | watching =>
          obtain ⟨v, hv⟩ := List.exists_mem_of_ne_nil _
            (watching_runnerMoves (S := Recorded.task α) hw hended)
          exact absurd hm (moves_of_runner hv)
      | stopping ended =>
          cases hS : w.line.sender.ending with
          | none =>
              have hleave := Recorded.leave_mem_senderMoves
                (T := Simulated.task rule (fixedBudget α) idle) hS
              exact absurd hm (moves_of_sender (by rw [hw]; exact hleave))
          | some e =>
              have hfeed : (Recorded.task α).hasEnded w.line.sender = true := by
                rw [Recorded.hasEnded_task, hS]
                rfl
              obtain ⟨v, hv⟩ := List.exists_mem_of_ne_nil _ (stopping_runnerMoves hw hfeed hended)
              exact absurd hm (moves_of_runner hv)
      | finished ended => exact absurd hw (hover ended)

/-- Time passes only where there is nothing left to take. -/
theorem wait {idle due : Nat} (h : Follows rule s bars w asked dropped)
    (hm : moves (Recorded.task α) (Simulated.task rule (fixedBudget α) idle) w = []) :
    Follows rule s bars (w.passTo due) asked dropped where
  split := h.split
  folded := h.folded
  feedOk := h.feedOk
  traderOk := h.traderOk
  timed d' hd' := by
    obtain ⟨hslot, hpending, d, hd, -⟩ := h.rest_of_no_moves hm hd'
    exact ⟨d, hd, fun hrest => by rcases hrest with hr | hr <;> contradiction⟩
  bothEnded := h.bothEnded
  calm hsig := by
    have hold := h.calm hsig
    exact ⟨hold.complete, hold.exhausted, hold.traderFirst, hold.feedLast⟩

theorem not_watching_of_stops {watch : Watch} (h : watch.stops = true) : watch ≠ .watching := by
  rintro rfl
  cases h

theorem feedMoves {idle : Nat} {l : Line (Candle α) (Recorded α) _}
    (h : Follows rule s bars w asked dropped)
    (hl : l ∈ w.line.senderMoves (Recorded.task α) (Simulated.task rule (fixedBudget α) idle)
      w.watch.stops) :
    ∃ asked' dropped', Follows rule s bars { w with line := l } asked' dropped' := by
  rcases Recorded.senderMoves_cases hl with
    ⟨hstop, hS, rfl⟩ | ⟨item, rest, hs, ⟨hT, rfl⟩ | ⟨hT, hslot, rfl⟩⟩
  · have hwatch := not_watching_of_stops hstop
    refine ⟨_, _, h.feedLeaves fun hsig => ⟨hwatch, ?_⟩⟩
    exact ((h.calm hsig).exhausted ((h.calm hsig).traderFirst hwatch)).2
  · have hended : w.line.receiver.ending ≠ none := by
      intro he
      rw [Simulated.task, Attendance.task_holdsLine, he] at hT
      cases hT
    refine ⟨_, _, h.feedLeaves fun hsig => ?_⟩
    have hpending := ((h.calm hsig).exhausted hended).2
    rw [hs] at hpending
    cases hpending
  · exact ⟨_, _, h.feedSends hs hslot (Option.isNone_iff_eq_none.mp hT)⟩

theorem traderMoves {idle : Nat} {l : Line (Candle α) (Recorded α) _}
    (h : Follows rule s bars w asked dropped) (horder : Simulated.InOrder s.1.ledger)
    (hidle : 0 < idle)
    (hl : l ∈ w.line.receiverMoves (Recorded.task α) (Simulated.task rule (fixedBudget α) idle)
      w.watch.stops) :
    ∃ asked' dropped', Follows rule s bars { w with line := l } asked' dropped' := by
  obtain ⟨due, hdue, hcases⟩ := Attendance.receiverMoves_cases hl
  have hpost := Attendance.ending_waiting hdue
  rcases hcases with ⟨item, hslot, rfl⟩ | ⟨hslot, hS, rfl⟩ | ⟨hstop, rfl⟩ | ⟨d, rfl, hd, rfl⟩
  · exact ⟨_, _, h.traderTakes horder hidle hslot hdue⟩
  · refine ⟨_, _, h.traderLeaves (fun f hf => nomatch hf) fun hsig => ?_⟩
    have hwatch : w.watch = .watching := by
      by_contra hw
      exact (h.calm hsig).traderFirst hw hpost
    rw [Recorded.task_holdsLine, (h.calm hsig).feedLast hwatch] at hS
    cases hS
  · refine ⟨_, _, h.traderLeaves (fun f hf => nomatch hf) fun hsig => ?_⟩
    exact absurd hpost ((h.calm hsig).traderFirst (not_watching_of_stops hstop))
  · -- Nothing is left to see: a bar on its way would have kept the idle time from ending.
    refine ⟨_, _, h.traderLeaves (fun f hf => nomatch hf) fun _ => ?_⟩
    obtain ⟨d', hd', hlate⟩ := h.timed _ hdue
    have hle : d' ≤ w.line.now := Option.some.inj hd' ▸ hd
    constructor
    · by_contra hslot
      have hlt := hlate (.inl hslot)
      omega
    · by_contra hpending
      have hlt := hlate (.inr hpending)
      omega

theorem watchMoves {idle : Nat} {w' : Replaying α ρ} (h : Follows rule s bars w asked dropped)
    (hrunner : w' ∈ Session.runnerMoves (Recorded.task α)
      (Simulated.task rule (fixedBudget α) idle) w) :
    ∃ asked' dropped', Follows rule s bars w' asked' dropped' := by
  rcases runnerMoves_cases hrunner with ⟨hw, ended, rfl, hseen⟩ | ⟨ended, hw, hS, hT, rfl⟩
  · refine ⟨_, _, h.runnerMoves (fun hw' => nomatch hw') (fun _ hw' => nomatch hw')
      fun hsig => ?_⟩
    rcases hseen with ⟨-, hfired⟩ | ⟨-, hS⟩ | ⟨-, hT⟩
    · rw [hsig] at hfired
      cases hfired
    · rw [Recorded.hasEnded_task, (h.calm hsig).feedLast hw] at hS
      cases hS
    · exact fun he => by simp [Simulated.task, he] at hT
  · have hfeed : w.line.sender.ending ≠ none := fun he => by simp [he] at hS
    have htrader : w.line.receiver.ending ≠ none := fun he => by
      simp [Simulated.task, he] at hT
    exact ⟨_, _, h.runnerMoves (fun hw' => nomatch hw') (fun _ _ => ⟨hfeed, htrader⟩)
      fun _ => htrader⟩

/-- What one step of any interleaving preserves. -/
theorem next {idle : Nat} {w' : Replaying α ρ} (h : Follows rule s bars w asked dropped)
    (horder : Simulated.InOrder s.1.ledger) (hidle : 0 < idle)
    (hstep : Next (Recorded.task α) (Simulated.task rule (fixedBudget α) idle) w w') :
    ∃ asked' dropped', Follows rule s bars w' asked' dropped' := by
  cases hstep with
  | fire =>
      exact ⟨asked, dropped, h.split, h.folded, h.feedOk, h.traderOk, h.timed, h.bothEnded,
        fun hs => nomatch hs⟩
  | wait hm hlate hleast => exact ⟨asked, dropped, h.wait hm⟩
  | move hmove =>
      rcases moves_cases hmove with ⟨l, hl, rfl⟩ | ⟨l, hl, rfl⟩ | hrunner
      · exact h.feedMoves hl
      · exact h.traderMoves horder hidle hl
      · exact h.watchMoves hrunner

/-- What every run preserves. -/
theorem reaches {idle : Nat} {w' : Replaying α ρ} (h : Follows rule s bars w asked dropped)
    (horder : Simulated.InOrder s.1.ledger) (hidle : 0 < idle)
    (hrun : Reaches (Recorded.task α) (Simulated.task rule (fixedBudget α) idle) w w') :
    ∃ asked' dropped', Follows rule s bars w' asked' dropped' := by
  induction hrun with
  | refl => exact ⟨asked, dropped, h⟩
  | tail _ hstep ih =>
      obtain ⟨asked', dropped', h'⟩ := ih
      exact h'.next horder hidle hstep

end Follows

end Session

end Crossover

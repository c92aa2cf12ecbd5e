import Crossover.Proofs.Trading.ExchangeCalls
import Crossover.Proofs.Trading.OnePosition

/-!
# Restarts before a close

On an exchange that never fails, the copy that a live trader keeps is the newest position as the
exchange has it, and is open. So a trader that is replaced by a fresh one is not missed when the
next advice is to close: the fresh one looks up the newest position, finds the copy, and from
there on does what the other one does. A trader without a copy is as good as a fresh one.
-/

namespace Crossover

variable {α β κ ρ : Type}

/-- Looking up the newest position leaves the exchange as it is. -/
def Exchange.OnlyLooks (exchange : Exchange α κ) : Prop :=
  ∀ k, (exchange.newest k).2 = k

def Rule.HoldsOver (rule : Rule α ρ) : List (Candle α) → ρ → Prop
  | [], _ => True
  | bar :: bars, r => (rule.advise r bar).1 = .hold ∧ rule.HoldsOver bars (rule.advise r bar).2

namespace Live

/-- The trader after a restart of the process: the funds are granted again, and there is no
copy. -/
def restarted (s : Live α β κ) : Live α β κ := .start s.budget s.exchange

theorem restarted_of_untracked {s : Live α β κ} (h : s.current = none) : s.restarted = s := by
  obtain ⟨b, k, current⟩ := s
  obtain rfl : current = none := h
  rfl

theorem handleAll_of_holdsOver {rule : Rule α ρ} {bars : List (Candle α)} {r : ρ}
    (h : rule.HoldsOver bars r) (budget : Budget α β) (market : Candle α → Exchange α κ)
    (s : Live α β κ) :
    handleAll rule budget market bars (s, r) =
      (s, bars.foldl (fun r bar => (rule.advise r bar).2) r) := by
  induction bars generalizing r with
  | nil => rfl
  | cons bar bars ih =>
      obtain ⟨hhold, hrest⟩ := h
      have hstep : (handle rule budget (market bar) bar (s, r)).1.state = s := by
        rw [handle_state, hhold]
        rfl
      simp only [handleAll, List.foldl_cons, hstep]
      exact ih hrest

section Close

variable {exchange : Exchange α κ} {fills : Order α → Prop} {positions : κ → List (Position α)}
  {sound : κ → Prop} (budget : Budget α β) (candle : Candle α) {s : Live α β κ}
  {p : Position α}

/-- The newest position, as it is looked up, is the copy. -/
theorem newest_of_tracks (hkeeps : exchange.Keeps Failure.Never fills positions sound)
    (hlooks : exchange.OnlyLooks) (hsound : sound s.exchange) (htracks : s.Tracks positions)
    (hp : s.current = some p) : exchange.newest s.exchange = (.ok (some p), s.exchange) := by
  obtain ⟨-, older, hnewest⟩ := htracks p hp
  obtain ⟨-, houtcome⟩ := hkeeps.newest s.exchange hsound
  have hsame := hlooks s.exchange
  rcases hcall : exchange.newest s.exchange with ⟨reply, k⟩
  rw [hcall] at houtcome hsame
  obtain rfl : k = s.exchange := hsame
  cases houtcome with
  | failed _ hf => exact hf.elim
  | done hreply hgood _ =>
      obtain rfl := hreply
      rw [hgood, hnewest, List.getLast?_concat]

/-- After a restart a close starts with a look at the newest position, and goes on as without
the restart. -/
theorem close_restarted (hkeeps : exchange.Keeps Failure.Never fills positions sound)
    (hlooks : exchange.OnlyLooks) (hsound : sound s.exchange) (htracks : s.Tracks positions)
    (hp : s.current = some p) :
    close budget exchange.recording candle s.restarted.unasked =
      (close budget exchange.recording candle s.unasked).view
        (Exchange.preceded [.lookup (.ok (some p))]) := by
  have hopen : p.isOpen = true := (htracks p hp).1
  have hcall : exchange.recording.newest s.restarted.unasked.exchange =
      (.ok (some p), (s.exchange, [.lookup (.ok (some p))])) :=
    exchange.recording_newest (s.exchange, [])
      (newest_of_tracks hkeeps hlooks hsound htracks hp)
  have hfilter : (some p).filter Position.isOpen = some p := by
    simp [Option.filter, hopen]
  -- what was looked up is the state of the other trader, after one more call
  have hstate : (⟨s.budget, (s.exchange, [.lookup (.ok (some p))]), some p⟩ :
      Live α β (κ × List (Exchange.Call α))) =
        s.unasked.view (Exchange.preceded [.lookup (.ok (some p))]) := by
    simp only [view, unasked, Exchange.preceded, List.append_nil, hp]
  rw [close_seen rfl hcall, hfilter, closeCurrent_open rfl hopen]
  rw [close_tracked (s := s.unasked) hp hopen]
  rw [← closeTracked_view (exchange.recording_readAs_preceded _), ← hstate]
  rfl

end Close

section Steps

variable (rule : Rule α ρ) (budget : Budget α β) (market : Candle α → Exchange α κ)

/-- Two traders come to the same end of a bar after some quiet ones: the same report and result,
the same state, and the same state of the rule. The second one makes the calls of the first
one, and at most one look at the newest position before them. -/
structure CloseAlike (quiet : List (Candle α)) (bar : Candle α) (kept fresh : Live α β κ × ρ) :
    Prop where
  step : handle rule budget (market bar) bar (handleAll rule budget market quiet fresh) =
    handle rule budget (market bar) bar (handleAll rule budget market quiet kept)
  calls : calls rule budget market (quiet ++ [bar]) fresh =
      calls rule budget market (quiet ++ [bar]) kept ∨
    ∃ p, kept.1.current = some p ∧ calls rule budget market (quiet ++ [bar]) fresh =
      .lookup (.ok (some p)) :: calls rule budget market (quiet ++ [bar]) kept

variable {rule budget market}

theorem closeAlike_of_view {quiet : List (Candle α)} {bar : Candle α} {s : Live α β κ} {r : ρ}
    {p : Position α} (hp : s.current = some p) (hquiet : rule.HoldsOver quiet r) {side : Side}
    (hadvice : (rule.advise (quiet.foldl (fun r bar => (rule.advise r bar).2) r) bar).1 =
      .advice side .closePosition)
    (hclose : close budget (market bar).recording bar s.restarted.unasked =
      (close budget (market bar).recording bar s.unasked).view
        (Exchange.preceded [.lookup (.ok (some p))])) :
    CloseAlike rule budget market quiet bar (s, r) (s.restarted, r) := by
  generalize hr : quiet.foldl (fun r bar => (rule.advise r bar).2) r = r' at hadvice
  have hfollow : handle rule budget (market bar).recording bar (s.restarted.unasked, r') =
      ((handle rule budget (market bar).recording bar (s.unasked, r')).1.view
          (Exchange.preceded [.lookup (.ok (some p))]),
        (handle rule budget (market bar).recording bar (s.unasked, r')).2) := by
    have hact : act budget (market bar).recording side .closePosition bar s.restarted.unasked =
        (act budget (market bar).recording side .closePosition bar s.unasked).view
          (Exchange.preceded [.lookup (.ok (some p))]) := by
      rw [act_eq_judged, act_eq_judged, ← judged_view]
      exact congrArg (Turn.judged side .closePosition bar.closePrice) hclose
    simp only [handle, hadvice, follow, hact]
    rfl
  constructor
  · rw [handleAll_of_holdsOver hquiet, handleAll_of_holdsOver hquiet, hr]
    have hkept := handle_view (market bar).recording_readAs budget bar s.unasked rule r'
    have hfresh := handle_view (market bar).recording_readAs budget bar s.restarted.unasked rule r'
    rw [hfollow] at hfresh
    exact hfresh.trans hkept.symm
  · refine .inr ⟨p, hp, ?_⟩
    have hcalls : ∀ s' : Live α β κ, calls rule budget market (quiet ++ [bar]) (s', r) =
        (handle rule budget (market bar).recording bar (s'.unasked, r')).1.state.exchange.2 := by
      intro s'
      rw [calls, handleAll_append, handleAll_of_holdsOver hquiet, hr]
      rfl
    rw [hcalls, hcalls, hfollow]
    rfl

end Steps

section Runs

variable {fills : Candle α → Order α → Prop} {positions : κ → List (Position α)}
  {sound : κ → Prop} {market : Candle α → Exchange α κ}
  (hkeeps : ∀ candle, (market candle).Keeps Failure.Never (fills candle) positions sound)

include hkeeps

theorem tracks_handleAll (rule : Rule α ρ) (budget : Budget α β) (bars : List (Candle α))
    {s : Live α β κ} (r : ρ) (hsound : sound s.exchange) (htracks : s.Tracks positions) :
    sound (handleAll rule budget market bars (s, r)).1.exchange ∧
      (handleAll rule budget market bars (s, r)).1.Tracks positions := by
  induction bars generalizing s r with
  | nil => exact ⟨hsound, htracks⟩
  | cons bar bars ih =>
      obtain ⟨hsound', htracks', -⟩ :=
        follow_openCount budget bar (hkeeps bar) hsound htracks (rule.advise r bar).1
      exact ih (rule.advise r bar).2 hsound' htracks'

/-- A trader has followed some bars on an exchange that never fails. It goes on to the next
advice, or the process is restarted there and a fresh trader goes on with the same funds. If that
advice is to close, the two come to the same end. -/
theorem restart_before_close_unseen (rule : Rule α ρ) (budget : Budget α β)
    (hlooks : ∀ candle, (market candle).OnlyLooks) {k : κ} (hk : sound k) (funds : β) (r : ρ)
    (done quiet : List (Candle α)) (bar : Candle α) {s : Live α β κ × ρ}
    (hs : s = handleAll rule budget market done (.start funds k, r))
    (hquiet : rule.HoldsOver quiet s.2) {side : Side}
    (hadvice : (rule.advise (handleAll rule budget market quiet s).2 bar).1 =
      .advice side .closePosition) :
    CloseAlike rule budget market quiet bar s (s.1.restarted, s.2) := by
  obtain ⟨hsound, htracks⟩ := tracks_handleAll hkeeps rule budget done r hk
    (tracks_of_none (rfl : (start funds k : Live α β κ).current = none))
  rw [← hs] at hsound htracks
  obtain ⟨s, r'⟩ := s
  rw [handleAll_of_holdsOver hquiet] at hadvice
  cases hcurrent : s.current with
  | none =>
      rw [restarted_of_untracked hcurrent]
      exact ⟨rfl, .inl rfl⟩
  | some p =>
      have hclose :=
        close_restarted budget bar (hkeeps bar) (hlooks bar) hsound htracks hcurrent
      exact closeAlike_of_view hcurrent hquiet hadvice hclose

omit hkeeps

/-- A position is opened, one bar is quiet, and the process is restarted before the close. The
fresh trader looks the position up and closes it. -/
theorem close_after_restart_unseen :
    let s := handleAll (.reciting Rat) (fixedBudget Rat) (fun _ => storedExchange Rat) [.blank]
      (.start ⟨1000, 1000, 1⟩ (.ofPositions [] fun _ => 1),
        [.advice .buy .openPosition, .hold, .advice .buy .closePosition])
    s.1.current.map Position.id = some "n1" ∧
      (calls (.reciting Rat) (fixedBudget Rat) (fun _ => storedExchange Rat) [.blank, .blank]
        s).length = 2 ∧
      (calls (.reciting Rat) (fixedBudget Rat) (fun _ => storedExchange Rat) [.blank, .blank]
        (s.1.restarted, s.2)).length = 3 ∧
      CloseAlike (.reciting Rat) (fixedBudget Rat) (fun _ => storedExchange Rat) [.blank] .blank s
        (s.1.restarted, s.2) :=
  ⟨by decide +kernel, by decide +kernel, by decide +kernel,
    restart_before_close_unseen (fun _ => storedExchange_keeps) _ _ (fun _ _ => rfl)
      (Stored.sound_empty _) _ _ [.blank] [.blank] .blank rfl ⟨rfl, trivial⟩ rfl⟩

end Runs

end Live

end Crossover

import Mathlib.Logic.Basic
import Mathlib.Tactic.SplitIfs
import Crossover.Proofs.Time.Interval
import Crossover.Settings.Validity

/-!
# What valid settings are

Settings are valid exactly if each part of them fits: the windows, the lot, the times and the
supplies of the mode. Two of these parts are not what usable settings are. A lot that is no
number is let through, since it is not at most zero. And a fetch timeout that is left unset is
never less than one second, so settings that poll every second are refused for it.
-/

namespace Crossover

/-- What is not at most zero is more than zero or no number. -/
theorem not_atMost_zero_iff (x : Float) : ¬ x ≤ 0.0 ↔ 0.0 < x ∨ x.isNaN = true := by
  have hzero : (0.0 : Float).toModel.unpack = .zero .positive := rfl
  have hle : x ≤ 0.0 ↔ (x.toModel.unpack.compare (.zero .positive)).any (·.isLE) = true := by
    rw [← hzero]
    exact decide_eq_true_iff
  have hlt : 0.0 < x ↔ ((Float.Model.UnpackedFloat.zero .positive).compare x.toModel.unpack ==
      some .lt) = true := by
    rw [← hzero]
    exact decide_eq_true_iff
  rw [hle, hlt, Float.isNaN, Float.Model.isNaN]
  cases x.toModel.unpack with
  | notANumber => decide
  | zero s => cases s <;> decide
  | infinity s => cases s <;> decide
  | finite s m e h =>
      cases s with
      | positive => exact iff_of_true Bool.false_ne_true (.inl rfl)
      | negative => exact iff_of_false (not_not_intro rfl) (by rintro (h | h) <;> cases h)

/-- Both windows hold a bar, and the fast one is shorter. -/
structure StrategySettings.WindowsFit (s : StrategySettings) : Prop where
  fast_pos : 1 ≤ s.windowFast
  slow_pos : 1 ≤ s.windowSlow
  fast_lt_slow : s.windowFast < s.windowSlow

namespace Settings

/-- The seconds between two polls: those that are given, at least one, or those of the interval
of the strategy. -/
inductive PollsEvery (s : Settings) : Nat → Prop
  | given {secs : Nat} : s.feed.pollInterval = some secs → 1 ≤ secs → PollsEvery s secs
  | derived {secs : Nat} : s.feed.pollInterval = none →
      Interval.seconds? s.strategy.interval = some secs → PollsEvery s secs

/-- There is an interval for the polls, and a fetch timeout that is set is shorter. -/
def TimesFit (s : Settings) : Prop :=
  ∃ poll, s.PollsEvery poll ∧ ∀ limit, s.feed.fetchTimeout = some limit → limit < poll

/-- The mode has what it needs: credentials for the exchange, a file to replay. -/
structure Supplied (s : Settings) : Prop where
  credentials : s.mode = .live ∨ s.mode = .replay → s.api.username ≠ "" ∧ s.api.password ≠ ""
  replayFile : s.mode = .replay ∨ s.mode = .backtest → s.feed.replayFile ≠ none

/-- What the rules for settings ask for. -/
structure Usable (s : Settings) : Prop where
  windows : s.strategy.WindowsFit
  lot : 0.0 < s.strategy.lot
  times : s.TimesFit
  supplied : s.Supplied

variable {s : Settings}

theorem checkStrategy_eq_ok_iff {s : StrategySettings} :
    checkStrategy s = .ok () ↔ s.WindowsFit ∧ (0.0 < s.lot ∨ s.lot.isNaN = true) := by
  rw [← not_atMost_zero_iff]
  unfold checkStrategy
  split_ifs with hempty horder hlot
  · refine iff_of_false (by simp) fun ⟨h, _⟩ => ?_
    have := h.fast_pos
    have := h.slow_pos
    omega
  · refine iff_of_false (by simp) fun ⟨h, _⟩ => ?_
    have := h.fast_lt_slow
    omega
  · exact iff_of_false (by simp) fun ⟨_, h⟩ => h hlot
  · exact iff_of_true rfl ⟨⟨by omega, by omega, by omega⟩, hlot⟩

theorem pollInterval_eq_ok_iff {poll : Nat} : s.pollInterval = .ok poll ↔ s.PollsEvery poll := by
  unfold pollInterval
  split
  · next secs hgiven =>
    split_ifs with hzero
    · refine iff_of_false (by simp) fun h => ?_
      cases h with
      | given hsecs hpos =>
          rw [hgiven, Option.some_inj] at hsecs
          omega
      | derived hnone => simp [hgiven] at hnone
    · constructor
      · rintro ⟨⟩
        exact .given hgiven (by omega)
      · intro h
        cases h with
        | given hsecs => rw [Option.some_inj.mp (hgiven.symm.trans hsecs)]
        | derived hnone => simp [hgiven] at hnone
  · next hnone =>
    split
    · next secs hsecs =>
      constructor
      · rintro ⟨⟩
        exact .derived hnone hsecs
      · intro h
        cases h with
        | given hgiven => simp [hnone] at hgiven
        | derived _ hderived => rw [Option.some_inj.mp (hsecs.symm.trans hderived)]
    · next hrefused =>
      refine iff_of_false (by simp) fun h => ?_
      cases h with
      | given hgiven => simp [hnone] at hgiven
      | derived _ hderived => simp [hrefused] at hderived

theorem PollsEvery.pos {poll : Nat} (h : s.PollsEvery poll) : 1 ≤ poll := by
  cases h with
  | given _ hpos => exact hpos
  | derived _ hsecs => exact Interval.one_le_seconds hsecs

theorem PollsEvery.eq {p q : Nat} (hp : s.PollsEvery p) (hq : s.PollsEvery q) : p = q := by
  have heq := (pollInterval_eq_ok_iff.mpr hp).symm.trans (pollInterval_eq_ok_iff.mpr hq)
  cases heq
  rfl

theorem fetchTimeout_given {limit : Nat} (h : s.feed.fetchTimeout = some limit) :
    s.fetchTimeout = .ok limit := by
  rw [fetchTimeout, h]

/-- A timeout that is left unset is one second shorter than the interval of the polls, but never
less than one second. -/
theorem fetchTimeout_derived {poll : Nat} (hnone : s.feed.fetchTimeout = none)
    (hpoll : s.PollsEvery poll) : s.fetchTimeout = .ok (max (poll - 1) 1) := by
  rw [fetchTimeout, hnone]
  show s.pollInterval.map _ = _
  rw [pollInterval_eq_ok_iff.mpr hpoll, Except.map]

theorem TimesFit.iff_of_pollsEvery {poll : Nat} (hpoll : s.PollsEvery poll) :
    s.TimesFit ↔ ∀ limit, s.feed.fetchTimeout = some limit → limit < poll := by
  constructor
  · rintro ⟨poll', hpoll', hlimit⟩
    rw [hpoll.eq hpoll']
    exact hlimit
  · exact fun hlimit => ⟨poll, hpoll, hlimit⟩

theorem checkTimes_of_pollsEvery {poll limit : Nat} (hpoll : s.PollsEvery poll)
    (hlimit : s.fetchTimeout = .ok limit) : s.checkTimes = .ok () ↔ limit < poll := by
  rw [checkTimes, pollInterval_eq_ok_iff.mpr hpoll, hlimit]
  simp only [bind, Except.bind]
  split_ifs with hlong
  · exact iff_of_false (by simp) (by omega)
  · exact iff_of_true rfl (by omega)

/-- The check of the times lets through what fits, unless the timeout is left unset and the polls
come every second. -/
theorem checkTimes_eq_ok_iff : s.checkTimes = .ok () ↔
    s.TimesFit ∧ (s.feed.fetchTimeout = none → ¬ s.PollsEvery 1) := by
  cases hinterval : s.pollInterval with
  | error u =>
      have hrefused : s.checkTimes = .error u := by rw [checkTimes, hinterval]; rfl
      rw [hrefused]
      refine iff_of_false (by simp) fun ⟨⟨poll, hpoll, _⟩, _⟩ => ?_
      rw [pollInterval_eq_ok_iff.mpr hpoll] at hinterval
      cases hinterval
  | ok poll =>
      have hpoll := pollInterval_eq_ok_iff.mp hinterval
      rw [TimesFit.iff_of_pollsEvery hpoll]
      cases htimeout : s.feed.fetchTimeout with
      | some limit =>
          rw [checkTimes_of_pollsEvery hpoll (fetchTimeout_given htimeout)]
          simp
      | none =>
          rw [checkTimes_of_pollsEvery hpoll (fetchTimeout_derived htimeout hpoll)]
          have hpos := hpoll.pos
          constructor
          · intro hshorter
            refine ⟨fun _ h => (Option.some_ne_none _ h.symm).elim, fun _ hone => ?_⟩
            have := hpoll.eq hone
            omega
          · rintro ⟨-, hnot⟩
            have hone : poll ≠ 1 := fun heq => hnot rfl (heq ▸ hpoll)
            omega

theorem checkSupplies_eq_ok_iff : s.checkSupplies = .ok () ↔ s.Supplied := by
  have hcredentials : (s.mode.usesApi && s.lacksCredentials) = true ↔
      ¬ (s.mode = .live ∨ s.mode = .replay → s.api.username ≠ "" ∧ s.api.password ≠ "") := by
    cases s.mode <;> simp [Mode.usesApi, lacksCredentials, or_iff_not_imp_left]
  have hfile : (s.mode.usesFile && s.feed.replayFile.isNone) = true ↔
      ¬ (s.mode = .replay ∨ s.mode = .backtest → s.feed.replayFile ≠ none) := by
    cases s.mode <;> simp [Mode.usesFile]
  unfold checkSupplies
  split_ifs with hlacks hmissing
  · exact iff_of_false (by simp) fun h => hcredentials.mp hlacks h.credentials
  · exact iff_of_false (by simp) fun h => hfile.mp hmissing h.replayFile
  · exact iff_of_true rfl
      ⟨of_not_not (mt hcredentials.mpr hlacks), of_not_not (mt hfile.mpr hmissing)⟩

theorem bind_eq_ok_iff {ε : Type} {x y : Except ε Unit} :
    (x >>= fun _ => y) = .ok () ↔ x = .ok () ∧ y = .ok () := by
  cases x with
  | error e => exact iff_of_false (by rintro ⟨⟩) (by rintro ⟨⟨⟩, -⟩)
  | ok u => exact (and_iff_right rfl).symm

theorem validate_eq_ok_iff : s.validate = .ok () ↔
    checkStrategy s.strategy = .ok () ∧ s.checkTimes = .ok () ∧ s.checkSupplies = .ok () := by
  rw [validate, bind_eq_ok_iff, bind_eq_ok_iff]

/-- Times that pass the check are there, and the timeout is the shorter one. -/
theorem exists_times_of_checkTimes (h : s.checkTimes = .ok ()) :
    ∃ poll limit, s.pollInterval = .ok poll ∧ s.fetchTimeout = .ok limit ∧ limit < poll := by
  unfold checkTimes at h
  cases hpoll : s.pollInterval with
  | error u => simp [hpoll, bind, Except.bind] at h
  | ok poll =>
      cases hlimit : s.fetchTimeout with
      | error u => simp [hpoll, hlimit, bind, Except.bind] at h
      | ok limit =>
          have hshorter := (checkTimes_of_pollsEvery (pollInterval_eq_ok_iff.mp hpoll) hlimit).mp h
          exact ⟨poll, limit, rfl, rfl, hshorter⟩

/-- Settings are valid exactly if the windows fit, the lot is more than zero or no number, the
times fit, and the mode is supplied; but not if the fetch timeout is left unset and the polls come
every second. -/
theorem valid_iff_parts_fit (s : Settings) :
    s.validate = .ok () ↔
      s.strategy.WindowsFit ∧ (0.0 < s.strategy.lot ∨ s.strategy.lot.isNaN = true) ∧
        (s.TimesFit ∧ (s.feed.fetchTimeout = none → ¬ s.PollsEvery 1)) ∧ s.Supplied := by
  rw [validate, bind_eq_ok_iff, bind_eq_ok_iff, checkStrategy_eq_ok_iff, checkTimes_eq_ok_iff,
    checkSupplies_eq_ok_iff, and_assoc]

/-- Settings that poll every second are refused for a timeout that nobody set, though they are
usable. A lot that is no number is let through. -/
theorem usable_but_refused :
    let settings (poll : Nat) (lot : Float) : Settings :=
      { mode := .backtest
        strategy := ⟨"ETHUSDT", "", "4h", 0.2, 500.0, lot, 20, 100, 100⟩
        feed := ⟨some poll, none, some "k.json"⟩
        idleTimeout := 3
        api := ⟨"http://localhost:3000", "", "", 30⟩
        log := ⟨"info", false, none⟩ }
    ((settings 1 0.1).Usable ∧ (settings 1 0.1).validate = .error .fetchTimeout) ∧
      ¬ (settings 60 (0.0 / 0.0)).Usable ∧ (settings 60 (0.0 / 0.0)).validate = .ok () := by
  intro settings
  have hwindows (poll : Nat) (lot : Float) : (settings poll lot).strategy.WindowsFit :=
    ⟨by simp [settings], by simp [settings], by simp [settings]⟩
  have hlot : (0.0 : Float) < 0.1 := by decide +kernel
  have hchecked (poll : Nat) {lot : Float} (h : 0.0 < lot ∨ lot.isNaN = true) :
      (settings poll lot).validate =
        (settings poll lot).checkTimes >>= fun _ => (settings poll lot).checkSupplies := by
    rw [validate, checkStrategy_eq_ok_iff.mpr ⟨hwindows poll lot, h⟩]
    rfl
  refine ⟨⟨⟨hwindows _ _, hlot, ?_, ?_⟩, (hchecked 1 (.inl hlot)).trans rfl⟩, fun h => ?_,
    (hchecked 60 (.inr (by decide +kernel))).trans rfl⟩
  · exact ⟨1, .given rfl (Nat.le_refl 1), by simp [settings]⟩
  · exact ⟨by simp [settings], by simp [settings]⟩
  · exact absurd h.lot (by decide +kernel)

end Settings

end Crossover

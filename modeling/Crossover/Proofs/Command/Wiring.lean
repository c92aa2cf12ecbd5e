import Crossover.Command.Wiring
import Crossover.Proofs.Remote.Sending
import Crossover.Proofs.Settings.Validity

/-!
# Valid settings are wired

Once the settings are valid, a session is wired unless the exchange stands in the way: the client
cannot be created, or does not get in. What the wiring looks up in the settings is there, and the
mode alone decides what is joined to what and whether the exchange is asked at all.
-/

namespace Crossover.Command

open Remote (Client Connection NoResponse OfExchange Opening Request Transport recording)

variable {κ : Type} {s : Settings}

def freshClient (s : Settings) : Client := .new s.api.endpoint s.api.username s.api.password

def admittedClient (s : Settings) (token : String) : Client :=
  { freshClient s with token := some token }

/-- How a session with the settings is wired, and with which requests to the exchange. -/
inductive Wired (s : Settings) : Wiring → List Request → Prop
  | live {poll limit : Nat} (token : String) : s.mode = .live → s.pollInterval = .ok poll →
      s.fetchTimeout = .ok limit → limit < poll →
      Wired s ⟨.polled ⟨s.strategy.pair, 1000 * poll, 1000 * limit⟩,
        .live (admittedClient s token), budget s.strategy⟩ [(freshClient s).tokenRequest]
  | replay {path : String} (token : String) : s.mode = .replay → s.feed.replayFile = some path →
      Wired s ⟨.recorded path s.strategy.pair, .live (admittedClient s token), budget s.strategy⟩
        [(freshClient s).tokenRequest]
  | backtest {path : String} : s.mode = .backtest → s.feed.replayFile = some path →
      Wired s ⟨.recorded path s.strategy.pair, .simulated (1000 * s.idleTimeout),
        budget s.strategy⟩ []

/-- Why there is no client that has logged in: it cannot be created, or is not let in. -/
inductive Unconnected (opening : Opening) (transport : Transport κ) (s : Settings) (link : κ) :
    Failure Float → Prop
  | creating {why : NoResponse} : opening s.api.requestTimeout = .error why →
      Unconnected opening transport s link
        ((Failure.outside .transport why.message why.because).within clientContext)
  | loggingIn {f : Failure Float} : opening s.api.requestTimeout = .ok () →
      (Connection.logIn transport ⟨freshClient s, link⟩).1 = .error f →
      Unconnected opening transport s link (f.within logInContext)

/-- What a wiring that does not find what it looks up fails with. -/
inductive Unsupplied : Cause Float → Prop
  | replayFile : Unsupplied (.outside .other "puller.replay_file is not set" [])
  | client (mode : Mode) :
      Unsupplied (.outside .other s!"{mode.name} mode needs an api client" [])
  | unfit (u : Unfit) : Unsupplied (.fault u.fault)

section Plan

theorem polledFeed_of_times {poll limit : Nat} (hpoll : s.pollInterval = .ok poll)
    (hlimit : s.fetchTimeout = .ok limit) :
    polledFeed s = .ok (.polled ⟨s.strategy.pair, 1000 * poll, 1000 * limit⟩) := by
  rw [polledFeed, hpoll, hlimit]
  rfl

theorem recordedFeed_of_file {path : String} (hpath : s.feed.replayFile = some path) :
    recordedFeed s = .ok (.recorded path s.strategy.pair) := by
  rw [recordedFeed, hpath]

variable (hvalid : s.validate = .ok ())

include hvalid

theorem exists_times : ∃ poll limit,
    s.pollInterval = .ok poll ∧ s.fetchTimeout = .ok limit ∧ limit < poll :=
  Settings.exists_times_of_checkTimes (Settings.validate_eq_ok_iff.mp hvalid).2.1

theorem exists_path (hmode : s.mode = .replay ∨ s.mode = .backtest) :
    ∃ path, s.feed.replayFile = some path := by
  have hsupplied := Settings.checkSupplies_eq_ok_iff.mp (Settings.validate_eq_ok_iff.mp hvalid).2.2
  exact Option.ne_none_iff_exists'.mp (hsupplied.replayFile hmode)

theorem plan_backtest (hmode : s.mode = .backtest) :
    ∃ w, plan s none = .ok w ∧ Wired s w [] := by
  obtain ⟨path, hpath⟩ := exists_path hvalid (.inr hmode)
  refine ⟨_, ?_, .backtest hmode hpath⟩
  simp only [plan, hmode, recordedFeed_of_file hpath]
  rfl

/-- With a client that has logged in, everything else is there. -/
theorem plan_connected (hmode : s.mode = .live ∨ s.mode = .replay) (token : String) :
    ∃ w, plan s (some (admittedClient s token)) = .ok w ∧
      Wired s w [(freshClient s).tokenRequest] := by
  rcases hmode with hmode | hmode
  · obtain ⟨poll, limit, hpoll, hlimit, hshorter⟩ := exists_times hvalid
    refine ⟨_, ?_, .live token hmode hpoll hlimit hshorter⟩
    simp only [plan, hmode, polledFeed_of_times hpoll hlimit]
    rfl
  · obtain ⟨path, hpath⟩ := exists_path hvalid (.inl hmode)
    refine ⟨_, ?_, .replay token hmode hpath⟩
    simp only [plan, hmode, recordedFeed_of_file hpath]
    rfl

end Plan

section Build

variable {opening : Opening} {transport : Transport κ} {link : κ}

def wiringRequests (opening : Opening) (transport : Transport κ) (s : Settings) (link : κ) :
    List Request :=
  (build opening (recording transport) s (link, [])).2.2

theorem usesApi_iff : s.mode.usesApi = true ↔ s.mode = .live ∨ s.mode = .replay := by
  cases s.mode <;> simp [Mode.usesApi]

theorem connect_backtest (hmode : s.mode = .backtest) :
    connect opening transport s link = (.ok none, link) := by
  have hno : ¬ s.mode.usesApi = true := by simp [hmode, Mode.usesApi]
  rw [connect, if_neg hno]

theorem connect_of_opened (hmode : s.mode = .live ∨ s.mode = .replay)
    (hopen : opening s.api.requestTimeout = .ok ()) :
    connect opening transport s link =
      ((inContext logInContext (Connection.logIn transport ⟨freshClient s, link⟩).1).map
          fun _ => some (Connection.logIn transport ⟨freshClient s, link⟩).2.client,
        (Connection.logIn transport ⟨freshClient s, link⟩).2.link) := by
  rw [connect, if_pos (usesApi_iff.mpr hmode)]
  simp only [newClient, hopen]
  rfl

theorem connect_of_unconnected (hmode : s.mode = .live ∨ s.mode = .replay) {f : Failure Float}
    (h : Unconnected opening transport s link f) :
    (connect opening transport s link).1 = .error f := by
  cases h with
  | creating hopen =>
      rw [connect, if_pos (usesApi_iff.mpr hmode)]
      simp only [newClient, hopen]
  | loggingIn hopen hfail =>
      rw [connect_of_opened hmode hopen, hfail]
      rfl

theorem build_eq : build opening transport s link =
    ((connect opening transport s link).1 >>= plan s, (connect opening transport s link).2) := rfl

theorem build_of_unconnected (hmode : s.mode = .live ∨ s.mode = .replay) {f : Failure Float}
    (h : Unconnected opening transport s link f) :
    (build opening transport s link).1 = .error f := by
  rw [build_eq, connect_of_unconnected hmode h]
  rfl

variable (hvalid : s.validate = .ok ())

include hvalid

theorem build_backtest (hmode : s.mode = .backtest) :
    ∃ w, build opening transport s link = (.ok w, link) ∧ Wired s w [] := by
  obtain ⟨w, hplan, hwired⟩ := plan_backtest hvalid hmode
  refine ⟨w, ?_, hwired⟩
  rw [build_eq, connect_backtest hmode, ← hplan]
  rfl

theorem build_of_admitted (hmode : s.mode = .live ∨ s.mode = .replay)
    (hopen : opening s.api.requestTimeout = .ok ()) {token : String} {link' : κ}
    (hin : Connection.logIn transport ⟨freshClient s, link⟩ =
      (.ok (), ⟨admittedClient s token, link'⟩)) :
    ∃ w, build opening transport s link = (.ok w, link') ∧
      Wired s w [(freshClient s).tokenRequest] := by
  obtain ⟨w, hplan, hwired⟩ := plan_connected hvalid hmode token
  refine ⟨w, ?_, hwired⟩
  rw [build_eq, connect_of_opened hmode hopen, hin, ← hplan]
  rfl

/-- A session with valid settings is wired, or it needs a client that it does not get. -/
theorem build_cases (opening : Opening) (transport : Transport κ) (link : κ) :
    (∃ w, (build opening transport s link).1 = .ok w ∧
        Wired s w (wiringRequests opening transport s link)) ∨
      (s.mode = .live ∨ s.mode = .replay) ∧ ∃ f, Unconnected opening transport s link f := by
  by_cases hmode : s.mode = .backtest
  · obtain ⟨w, hbuild, hwired⟩ :
        ∃ w, build opening transport s link = (.ok w, link) ∧ Wired s w [] :=
      build_backtest hvalid hmode
    obtain ⟨w', hrecorded, -⟩ :
        ∃ w, build opening (recording transport) s (link, []) = (.ok w, link, []) ∧ Wired s w [] :=
      build_backtest hvalid hmode
    refine .inl ⟨w, by rw [hbuild], ?_⟩
    rw [wiringRequests, hrecorded]
    exact hwired
  · have hmode : s.mode = .live ∨ s.mode = .replay := by
      cases h : s.mode <;> simp_all
    cases hopen : opening s.api.requestTimeout with
    | error why => exact .inr ⟨hmode, _, .creating hopen⟩
    | ok u =>
        rcases Connection.logIn_cases transport (freshClient s) link with
          ⟨token, hin⟩ | ⟨f, -, hout⟩
        · obtain ⟨w, hbuild, hwired⟩ := build_of_admitted hvalid hmode hopen hin
          -- the recorded session logs in as this one does
          have hrecording := Connection.logIn_recording transport (freshClient s) link []
          rw [hin] at hrecording
          obtain ⟨w', hrecorded, -⟩ := build_of_admitted hvalid hmode hopen hrecording
          refine .inl ⟨w, by rw [hbuild], ?_⟩
          rw [wiringRequests, hrecorded]
          exact hwired
        · exact .inr ⟨hmode, _, .loggingIn hopen (by rw [hout])⟩

theorem build_eq_error_iff (opening : Opening) (transport : Transport κ) (link : κ)
    (f : Failure Float) :
    (build opening transport s link).1 = .error f ↔
      (s.mode = .live ∨ s.mode = .replay) ∧ Unconnected opening transport s link f := by
  constructor
  · intro hbuilt
    rcases build_cases hvalid opening transport link with ⟨w, hw, -⟩ | ⟨hmode, g, hg⟩
    · rw [hw] at hbuilt
      cases hbuilt
    · rw [build_of_unconnected hmode hg] at hbuilt
      cases hbuilt
      exact ⟨hmode, hg⟩
  · rintro ⟨hmode, h⟩
    exact build_of_unconnected hmode h

end Build

/-- What keeps a client out lies with the exchange. -/
theorem Unconnected.ofExchange {opening : Opening} {transport : Transport κ} {link : κ}
    {f : Failure Float} (h : Unconnected opening transport s link f) : OfExchange f.cause := by
  cases h with
  | @creating why _ => exact .unanswered why
  | loggingIn _ hfail =>
      rcases Connection.logIn_cases transport (freshClient s) link with
        ⟨token, hin⟩ | ⟨g, hcause, hout⟩
      · rw [hin] at hfail
        cases hfail
      · rw [hout] at hfail
        cases hfail
        exact hcause

theorem not_unsupplied_of_ofExchange {c : Cause Float} (h : OfExchange c) : ¬ Unsupplied c := by
  cases h <;> rintro ⟨⟩

/-- Valid settings are always wired, unless the exchange is needed and there is no client for it
that has logged in. The failure is never one of the settings, and the mode alone decides what is
joined to what, with one request to the exchange if it is needed and none if it is not. -/
theorem valid_settings_wired (opening : Opening) (transport : Transport κ) (link : κ)
    (s : Settings) (hvalid : s.validate = .ok ()) :
    let built := (build opening transport s link).1
    (∀ f, built = .error f ↔
        (s.mode = .live ∨ s.mode = .replay) ∧ Unconnected opening transport s link f) ∧
      (∀ f, built = .error f → ¬ Unsupplied f.cause) ∧
      ∀ w, built = .ok w → Wired s w (wiringRequests opening transport s link) := by
  have hfails := build_eq_error_iff hvalid opening transport link
  refine ⟨hfails, fun f hf => ?_, fun w hw => ?_⟩
  · exact not_unsupplied_of_ofExchange ((hfails f).mp hf).2.ofExchange
  · rcases build_cases hvalid opening transport link with ⟨w', hw', hwired⟩ | ⟨hmode, f, hf⟩
    · rw [hw'] at hw
      cases hw
      exact hwired
    · rw [build_of_unconnected hmode hf] at hw
      cases hw

def admitting : Transport Unit :=
  Remote.serving [("/v1/users/token", ⟨200, "\x7b\"token\":\"t\"\x7d"⟩)]

def liveSettings : Settings where
  mode := .live
  strategy := ⟨"ETHUSDT", "", "4h", 0.2, 500.0, 0.1, 20, 100, 100⟩
  feed := ⟨none, none, none⟩
  idleTimeout := 3
  api := ⟨"http://localhost:3000", "bot", "secret", 30⟩
  log := ⟨"info", false, none⟩

theorem liveSettings_pollsEvery : liveSettings.PollsEvery 14400 :=
  .derived rfl (by decide +kernel)

theorem liveSettings_fetchTimeout : liveSettings.fetchTimeout = .ok 14399 :=
  Settings.fetchTimeout_derived rfl liveSettings_pollsEvery

theorem liveSettings_valid : liveSettings.validate = .ok () := by
  have hlot : (0.0 : Float) < 0.1 := by decide +kernel
  refine Settings.validate_eq_ok_iff.mpr ⟨?_, ?_, rfl⟩
  · exact Settings.checkStrategy_eq_ok_iff.mpr ⟨⟨by decide, by decide, by decide⟩, .inl hlot⟩
  · rw [Settings.checkTimes_of_pollsEvery liveSettings_pollsEvery liveSettings_fetchTimeout]
    decide

/-- A live session with the default times is wired over a server that lets the client in, and
not over one that does not know it. -/
theorem live_session_wired :
    liveSettings.validate = .ok () ∧
      (∃ client, (build Remote.opened admitting liveSettings ()).1 =
        .ok ⟨.polled ⟨liveSettings.strategy.pair, 14400000, 14399000⟩, .live client,
          budget liveSettings.strategy⟩) ∧
      wiringRequests Remote.opened admitting liveSettings () =
        [(freshClient liveSettings).tokenRequest] ∧
      (build Remote.opened (Remote.serving []) liveSettings ()).1 =
        .error ((Failure.ofFault (.unexpectedStatus 404)).within logInContext) := by
  have hup := valid_settings_wired Remote.opened admitting () liveSettings liveSettings_valid
  have hdown := valid_settings_wired Remote.opened (Remote.serving []) () liveSettings
    liveSettings_valid
  have hin : (Connection.logIn admitting ⟨freshClient liveSettings, ()⟩).1 = .ok () := rfl
  have hout : (Connection.logIn (Remote.serving []) ⟨freshClient liveSettings, ()⟩).1 =
      .error (.ofFault (.unexpectedStatus 404)) := rfl
  have hrefused := (hdown.1 _).mpr ⟨.inl rfl, .loggingIn rfl hout⟩
  refine ⟨liveSettings_valid, ?_⟩
  cases hbuilt : (build Remote.opened admitting liveSettings ()).1 with
  | error f =>
      obtain ⟨-, hunconnected⟩ := (hup.1 f).mp hbuilt
      cases hunconnected with
      | creating hopen => cases hopen
      | loggingIn _ hfail =>
          rw [hin] at hfail
          cases hfail
  | ok w =>
      have hwired := hup.2.2 w hbuilt
      generalize wiringRequests Remote.opened admitting liveSettings () = requests at hwired ⊢
      cases hwired with
      | live token _ hpoll hlimit _ =>
          rw [Settings.pollInterval_eq_ok_iff.mpr liveSettings_pollsEvery] at hpoll
          rw [liveSettings_fetchTimeout] at hlimit
          cases hpoll
          cases hlimit
          exact ⟨⟨_, rfl⟩, rfl, hrefused⟩
      | replay _ hmode => cases hmode
      | backtest hmode => cases hmode

end Crossover.Command

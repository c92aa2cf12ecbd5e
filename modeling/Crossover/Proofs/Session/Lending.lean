import Crossover.Proofs.Session.Watching
import Crossover.Rehearsal.Scripted
import Crossover.Session.Work

/-!
# Lending the rule

A strategy lends its rule to one session after another. Whatever the tasks of a session do, in
whatever order they end and whenever the stop signal comes, the report is about the ends of both
tasks, the strategy is stopped, and the rule is back as the trader left it unless the trader
panicked. A strategy that has lost its rule refuses every later session.
-/

namespace Crossover

variable {α γ ρ σ τ : Type}

namespace Session

variable {S : Task α γ σ} {T : Task α γ τ} {w w' : Session γ σ τ}
  {ended : Ended} {fed traded : Ending α}

/-- The two results in the order in which they are looked at: first that of the task whose end
the runner saw first, a stop signal counting as the trader. -/
def inOrder (ended : Ended) (fed traded : Ending α) :
    Except (Failure α) Unit × Except (Failure α) Unit :=
  match ended with
  | .feed => (joined "puller" fed, joined "trader" traded)
  | .signal => (joined "trader" traded, joined "puller" fed)
  | .trader => (joined "trader" traded, joined "puller" fed)

theorem outcome_eq_bind :
    outcome ended fed traded =
      (inOrder ended fed traded).1 >>= fun _ => (inOrder ended fed traded).2 := by
  cases ended <;> rfl

theorem joined_eq_ok (name : String) {ending : Ending α} :
    joined name ending = .ok () ↔ ending = .returned (.ok ()) := by
  cases ending with
  | panicked => simp [joined]
  | returned result => simp [joined]

theorem outcome_of_first {f : Failure α} (h : (inOrder ended fed traded).1 = .error f) :
    outcome ended fed traded = .error f := by
  rw [outcome_eq_bind, h]
  rfl

theorem outcome_of_second (h : (inOrder ended fed traded).1 = .ok ()) :
    outcome ended fed traded = (inOrder ended fed traded).2 := by
  rw [outcome_eq_bind, h]
  rfl

theorem inOrder_eq_ok (ended : Ended) :
    (inOrder ended fed traded).1 = .ok () ∧ (inOrder ended fed traded).2 = .ok () ↔
      fed = .returned (.ok ()) ∧ traded = .returned (.ok ()) := by
  rw [← joined_eq_ok "puller", ← joined_eq_ok "trader"]
  cases ended with
  | feed => exact Iff.rfl
  | signal => exact and_comm
  | trader => exact and_comm

theorem outcome_eq_ok (ended : Ended) :
    outcome ended fed traded = .ok () ↔
      fed = .returned (.ok ()) ∧ traded = .returned (.ok ()) := by
  rw [← inOrder_eq_ok ended]
  cases hfirst : (inOrder ended fed traded).1 with
  | error f => simp [outcome_of_first hfirst]
  | ok u => simp [outcome_of_second hfirst]

theorem exists_runnerMove (h : BothEnded S T w) (hwatch : ∀ ended, w.watch ≠ .finished ended) :
    ∃ w', w' ∈ runnerMoves S T w := by
  apply List.exists_mem_of_ne_nil
  cases hw : w.watch with
  | watching => exact watching_runnerMoves hw h.2
  | stopping ended => exact stopping_runnerMoves hw h.1 h.2
  | finished ended => exact absurd hw (hwatch ended)

theorem distance_runnerMoves (h : w' ∈ runnerMoves S T w) :
    distance w'.watch < distance w.watch := by
  rcases runnerMoves_cases h with ⟨hw, ended, rfl, -⟩ | ⟨ended, hw, -, -, rfl⟩
  · rw [hw]
    exact Nat.lt_succ_self _
  · rw [hw]
    exact Nat.lt_succ_self _

/-- Once both tasks have ended, only the runner moves. -/
theorem BothEnded.distance_proceeds (hS : S.Settles) (hT : T.Settles) (h : BothEnded S T w)
    (hwatch : ∀ ended, w.watch ≠ .finished ended) (hstep : Proceeds S T w w') :
    distance w'.watch < distance w.watch := by
  obtain ⟨hnext, hne, hsame⟩ := hstep
  cases hnext with
  -- a signal that fires again changes nothing, and time does not pass while the runner can move
  | fire =>
      obtain ⟨line, signalled, watch⟩ := w
      cases hsame
      exact absurd rfl hne
  | wait hm =>
      obtain ⟨v, hv⟩ := exists_runnerMove h hwatch
      exact absurd hm (moves_of_runner hv)
  | move hmove =>
      rcases moves_cases hmove with ⟨l, hl, -⟩ | ⟨l, hl, -⟩ | hrunner
      · rw [Line.senderMoves_of_ended hS h.1] at hl
        exact absurd hl List.not_mem_nil
      · rw [Line.receiverMoves_of_ended hT h.2] at hl
        exact absurd hl List.not_mem_nil
      · exact distance_runnerMoves hrunner

/-- Once both tasks have ended, the runner finishes. -/
theorem BothEnded.inevitable (hS : S.Settles) (hT : T.Settles) (h : BothEnded S T w) :
    Inevitable (Proceeds S T)
      (fun w' => BothEnded S T w' ∧ ∃ ended, w'.watch = .finished ended) w := by
  refine .of_shrinking (BothEnded S T) (fun v => distance v.watch) ?_ ?_ ?_ h
  · intro v hv hgoal
    obtain ⟨v', hmove⟩ := exists_runnerMove hv fun ended hw => hgoal ⟨hv, ended, hw⟩
    have hless := distance_runnerMoves hmove
    have hmem : v' ∈ moves S T v := List.mem_append_left _ hmove
    refine ⟨v', .move hmem, fun hsame => ?_, signalled_of_mem_moves hmem⟩
    rw [hsame] at hless
    exact Nat.lt_irrefl _ hless
  · intro v v' hv hstep
    exact hv.next hS hT hstep.1
  · intro v v' hv hgoal hstep
    exact hv.distance_proceeds hS hT (fun ended hw => hgoal ⟨hv, ended, hw⟩) hstep

end Session

theorem Rehearsal.scriptedFeedTask_settles (item : γ) :
    (scriptedFeedTask (α := α) item).Settles := by
  intro s hended
  cases s with
  | left => rfl
  | _ => cases hended

theorem Rehearsal.scriptedTraderTask_settles (rule : Rule α ρ) (script : TraderScript α) :
    (scriptedTraderTask rule script).Settles := by
  intro s hended
  cases hphase : s.phase with
  | left => simp [scriptedTraderTask, Task.plain, ScriptedTrader.branches, hphase]
  | _ => simp [Task.hasEnded, scriptedTraderTask, Task.plain, ScriptedTrader.ending, hphase]
      at hended

namespace Strategy

open Session (Reaches Proceeds BothEnded FirstSeen inOrder)

variable {S : Task α γ σ} {T : Task α γ τ} {ruleOf : τ → ρ} {w : Session γ σ τ}
  {s s' : Strategy ρ} {report : Report α ρ γ σ τ}

theorem conclude_eq_some (h : conclude S T ruleOf w s = some report) :
    ∃ ended fed traded, w.watch = .finished ended ∧ S.ending w.line.sender = some fed ∧
      T.ending w.line.receiver = some traded ∧
      report = ⟨s.regain (returnedRule T ruleOf w.line.receiver), some w,
        Session.outcome ended fed traded⟩ := by
  obtain ⟨result, hresult, rfl⟩ := Option.map_eq_some_iff.mp h
  unfold Session.outcome? at hresult
  split at hresult
  · next ended fed traded hw hfed htraded =>
    cases hresult
    exact ⟨ended, fed, traded, hw, hfed, htraded, rfl⟩
  · cases hresult

theorem conclude_isSome {ended : Ended} (hw : w.watch = .finished ended)
    (h : BothEnded S T w) (s : Strategy ρ) : (conclude S T ruleOf w s).isSome = true := by
  obtain ⟨fed, hfed⟩ := Option.isSome_iff_exists.mp h.1
  obtain ⟨traded, htraded⟩ := Option.isSome_iff_exists.mp h.2
  simp only [conclude, Session.outcome?, hw, hfed, htraded, Option.map_some, Option.isSome_some]

/-- The two tasks of a session, with the state each starts in; the trader starts with the rule. -/
structure Cast (α γ ρ : Type) where
  {σ τ : Type}
  feedTask : Task α γ σ
  traderTask : Task α γ τ
  feed : σ
  trader : ρ → τ
  ruleOf : τ → ρ
  feed_settles : feedTask.Settles
  trader_settles : traderTask.Settles
  ruleOf_trader : ∀ rule, ruleOf (trader rule) = rule

namespace Cast

def replay [Scalar α] {β : Type} (rule : Rule α ρ) (budget : Budget α β) (idle : Nat)
    (feed : Recorded α) (s : Simulated α β) : Cast α (Candle α) ρ where
  feedTask := Recorded.task α
  traderTask := Simulated.task rule budget idle
  feed := feed
  trader := Simulated.begin idle s
  ruleOf t := t.trader.rule
  feed_settles := Recorded.task_settles
  trader_settles := Attendance.task_settles _ _
  ruleOf_trader _ := rfl

def live {β κ κ' : Type} (rule : Rule α ρ) (budget : Budget α β) (exchange : Exchange α κ)
    (source : Source α κ') (polling : Polling) (link : κ') (s : Live α β κ) :
    Cast α (Candle α) ρ where
  feedTask := Polled.task source polling
  traderTask := Live.task rule budget exchange
  feed := .begin source polling 0 link
  trader := Live.begin s
  ruleOf t := t.trader.rule
  feed_settles := Polled.task_settles source polling
  trader_settles := Attendance.task_settles _ _
  ruleOf_trader _ := rfl

variable (c : Cast α γ ρ)

def start (rule : ρ) : Session γ c.σ c.τ := .start c.feed (c.trader rule)

/-- How a session went that is over: both tasks have ended, and one thing was seen first. -/
structure Course (rule : ρ) where
  final : Session γ c.σ c.τ
  ended : Ended
  fed : Ending α
  traded : Ending α
  reached : Reaches c.feedTask c.traderTask (c.start rule) final
  feed_ended : c.feedTask.ending final.line.sender = some fed
  trader_ended : c.traderTask.ending final.line.receiver = some traded
  seen : FirstSeen c.feedTask c.traderTask (c.start rule) ended final

variable {c} {rule : ρ}

/-- What is reported of a session that went so. -/
structure Course.Accounts (course : c.Course rule) (report : Report α ρ γ c.σ c.τ) : Prop where
  session : report.session = some course.final
  stopped : report.strategy.state = .stopped
  rule_kept : report.strategy.rule.isSome = true ↔ course.traded ≠ .panicked
  rule_left : ∀ r, report.strategy.rule = some r → r = c.ruleOf course.final.line.receiver
  success : ∀ t, report.handedBack c.traderTask = .ok t ↔
    t = course.final.line.receiver ∧ course.fed = .returned (.ok ()) ∧
      course.traded = .returned (.ok ())
  first_failed : ∀ f, (inOrder course.ended course.fed course.traded).1 = .error f →
    report.handedBack c.traderTask = .error f
  second_failed : ∀ f, (inOrder course.ended course.fed course.traded).1 = .ok () →
    (inOrder course.ended course.fed course.traded).2 = .error f →
    report.handedBack c.traderTask = .error f
  /-- A trader is there whenever none of the two tasks failed. -/
  trader_there : report.result = .ok () →
    returnedTrader c.traderTask course.final.line.receiver = some course.final.line.receiver

end Cast

theorem returnedRule_of_ending (ruleOf : τ → ρ) {traded : Ending α} {trader : τ}
    (h : T.ending trader = some traded) :
    ((returnedRule T ruleOf trader).isSome = true ↔ traded ≠ .panicked) ∧
      ∀ r, returnedRule T ruleOf trader = some r → r = ruleOf trader := by
  cases traded with
  | panicked => simp [returnedRule, h]
  | returned result => simp [returnedRule, h, eq_comm]

theorem returnedTrader_of_ok {trader : τ} {result : Except (Failure α) Unit}
    (h : T.ending trader = some (.returned result)) :
    returnedTrader T trader = some trader := by
  simp only [returnedTrader, h]

theorem handedBack_of_error {f : Failure α} (h : report.result = .error f) :
    report.handedBack T = .error f := by
  simp only [Report.handedBack, h]

theorem handedBack_of_ok {trader : τ} (hsession : report.session = some w)
    (htrader : returnedTrader T w.line.receiver = some trader) (h : report.result = .ok ()) :
    report.handedBack T = .ok trader := by
  simp only [Report.handedBack, h, hsession, Option.bind_some, htrader]

namespace Cast

variable {c : Cast α γ ρ} {rule : ρ}

/-- The result is that of the two tasks, looked at one after the other. -/
theorem Course.accounts (course : c.Course rule) (s : Strategy ρ) :
    course.Accounts ⟨s.regain (returnedRule c.traderTask c.ruleOf course.final.line.receiver),
      some course.final, Session.outcome course.ended course.fed course.traded⟩ := by
  obtain ⟨hkept, hleft⟩ := returnedRule_of_ending c.ruleOf course.trader_ended
  have hthere (h : Session.outcome course.ended course.fed course.traded = .ok ()) :
      returnedTrader c.traderTask course.final.line.receiver =
        some course.final.line.receiver := by
    have htraded := ((Session.outcome_eq_ok course.ended).mp h).2
    exact returnedTrader_of_ok (htraded ▸ course.trader_ended)
  constructor
  · rfl
  · rfl
  · exact hkept
  · exact hleft
  · intro t
    rw [← Session.outcome_eq_ok course.ended]
    cases hresult : Session.outcome course.ended course.fed course.traded with
    | error f =>
        rw [handedBack_of_error rfl]
        simp
    | ok u =>
        rw [handedBack_of_ok rfl (hthere hresult) rfl]
        simp [eq_comm]
  · intro f hf
    exact handedBack_of_error (Session.outcome_of_first hf)
  · intro f hok hf
    exact handedBack_of_error ((Session.outcome_of_second hok).trans hf)
  · exact hthere

/-- A session that came to a report went some way, of which the report tells. -/
theorem exists_course {report : Report α ρ γ c.σ c.τ} (hrule : s.rule = some rule)
    (h : Reports c.feedTask c.traderTask c.ruleOf c.feed c.trader s report) :
    ∃ course : c.Course rule, course.Accounts report := by
  cases h with
  | refused hnone => cases hrule.symm.trans hnone
  | @ran rule' w _ hrule' hreaches hreport =>
      cases hrule.symm.trans hrule'
      obtain ⟨ended, fed, traded, hw, hfed, htraded, rfl⟩ := conclude_eq_some hreport
      have hwatched := Session.watched_of_reaches c.feed_settles c.trader_settles rfl hreaches
      exact ⟨⟨w, ended, fed, traded, hreaches, hfed, htraded, hwatched.firstSeen hw⟩,
        Course.accounts _ _⟩

/-- Tasks that end do so under the runner as well, which then comes back with a report. -/
theorem inevitable_conclude (c : Cast α γ ρ) (s : Strategy ρ) {w : Session γ c.σ c.τ}
    (hends : Inevitable (Proceeds c.feedTask c.traderTask)
      (BothEnded c.feedTask c.traderTask) w) :
    Inevitable (Proceeds c.feedTask c.traderTask)
      (fun w' => (conclude c.feedTask c.traderTask c.ruleOf w' s).isSome = true) w := by
  apply hends.trans
  intro v hv
  apply (hv.inevitable c.feed_settles c.trader_settles).trans
  rintro v' ⟨hboth, ended, hw⟩
  exact .here (conclude_isSome hw hboth s)

end Cast

/-- One run of a strategy: the tasks it was given and what it came back with. -/
abbrev Stint (α γ ρ : Type) := Σ c : Cast α γ ρ, Report α ρ γ c.σ c.τ

/-- A strategy runs once after another, with other tasks and in another interleaving each time. -/
inductive Season : Strategy ρ → List (Stint α γ ρ) → Strategy ρ → Prop
  | rest {s : Strategy ρ} : Season s [] s
  | next {s s' : Strategy ρ} {c : Cast α γ ρ} {report : Report α ρ γ c.σ c.τ}
      {stints : List (Stint α γ ρ)} :
      Reports c.feedTask c.traderTask c.ruleOf c.feed c.trader s report →
      Season report.strategy stints s' → Season s (⟨c, report⟩ :: stints) s'

/-- Each run starts with the rule as the run before left it, and accounts for what happened;
without a rule nothing is started any more. -/
def Accounted : Option ρ → List (Stint α γ ρ) → Prop
  | _, [] => True
  | some rule, ⟨c, report⟩ :: stints =>
    (∃ course : c.Course rule, course.Accounts report) ∧ Accounted report.strategy.rule stints
  | none, ⟨c, report⟩ :: stints =>
    report.session = none ∧ report.strategy = ⟨none, .stopped⟩ ∧
      report.handedBack c.traderTask = .error (.ofFault .ruleUnavailable) ∧ Accounted none stints

theorem Season.accounted {stints : List (Stint α γ ρ)} (h : Season s stints s')
    (hstopped : s.state = .stopped) : Accounted s.rule stints ∧ s'.state = .stopped := by
  induction h with
  | @rest s => exact ⟨by cases s.rule <;> trivial, hstopped⟩
  | @next s s' c report stints hreports _ ih =>
      cases hrule : s.rule with
      | some rule =>
          obtain ⟨course, haccounts⟩ := c.exists_course hrule hreports
          obtain ⟨hlater, hend⟩ := ih haccounts.stopped
          exact ⟨⟨⟨course, haccounts⟩, hlater⟩, hend⟩
      -- without a rule the run is refused, so the strategy goes into the next run as it was
      | none =>
          cases hreports with
          | ran hsome => cases hrule.symm.trans hsome
          | refused =>
              obtain ⟨hlater, hend⟩ := ih hstopped
              obtain ⟨_, _⟩ := s
              cases hrule
              cases hstopped
              exact ⟨⟨rfl, rfl, rfl, hlater⟩, hend⟩

/-- Over any sequence of runs the rule goes from each trader to the next run and is lost only to
a panic; every run accounts for its tasks, and comes to an end when they do. -/
theorem runs_conserve_rule (rule : ρ) {stints : List (Stint α γ ρ)}
    (h : Season (.ofRule rule) stints s) :
    Accounted (some rule) stints ∧ s.state = .stopped ∧
      ∀ (c : Cast α γ ρ) (r : ρ) (w : Session γ c.σ c.τ),
        Inevitable (Proceeds c.feedTask c.traderTask) (BothEnded c.feedTask c.traderTask) w →
        Inevitable (Proceeds c.feedTask c.traderTask)
          (fun w' => (conclude c.feedTask c.traderTask c.ruleOf w'
            (Strategy.ofRule r).lent).isSome = true) w := by
  obtain ⟨haccounted, hstopped⟩ := h.accounted rfl
  exact ⟨haccounted, hstopped, fun c r w hends => c.inevitable_conclude _ hends⟩

/-- A feed that sends five bars and a trader that counts with the rule as many as it takes. -/
def Cast.counting (script : Rehearsal.TraderScript Float) : Cast Float (Candle Float) Nat where
  feedTask := Rehearsal.scriptedFeedTask Candle.blank
  traderTask := Rehearsal.scriptedTraderTask
    ⟨fun _ => "counting", fun seen _ => (.hold, seen + 1), fun _ _ _ => none⟩ script
  feed := .next 0 [.send 5]
  trader := .begin
  ruleOf t := t.rule
  feed_settles := Rehearsal.scriptedFeedTask_settles _
  trader_settles := Rehearsal.scriptedTraderTask_settles _ _
  ruleOf_trader _ := rfl

theorem Cast.exists_report (c : Cast α γ ρ) (stop : Stop γ c.σ c.τ) (fuel : Nat)
    (s : Strategy ρ) (rule : Option ρ) (state : RunState)
    (h : (run c.feedTask c.traderTask c.ruleOf stop fuel c.feed c.trader s).map
      (fun report => (report.strategy.rule, report.strategy.state)) = some (rule, state)) :
    ∃ report : Report α ρ γ c.σ c.τ,
      Reports c.feedTask c.traderTask c.ruleOf c.feed c.trader s report ∧
        report.strategy = ⟨rule, state⟩ := by
  obtain ⟨report, hrun, hreport⟩ := Option.map_eq_some_iff.mp h
  obtain ⟨hrule, hstate⟩ := Prod.mk.inj hreport
  refine ⟨report, reports_of_run hrun, ?_⟩
  rw [← hrule, ← hstate]

/-- A failure and then a success leave the rule with three bars; a panic takes it away for good. -/
theorem rule_conserved_until_panic : ∃ (stints : List (Stint Float (Candle Float) Nat))
    (s : Strategy Nat), Season (.ofRule 0) stints s ∧
      stints.map (fun stint => stint.2.strategy.rule) = [some 1, some 3, none, none] ∧
      Accounted (some 0) stints ∧ s.state = .stopped := by
  obtain ⟨failed, hfailed, h₁⟩ := (Cast.counting
    ⟨1, 0, .returned (.error (.outside .other "order rejected" []))⟩).exists_report
      (.atTime none) 50 (.ofRule 0) (some 1) .stopped (by decide +kernel)
  obtain ⟨traded, htraded, h₂⟩ := (Cast.counting ⟨2, 0, .returned (.ok ())⟩).exists_report
    (.atTime none) 50 ⟨some 1, .stopped⟩ (some 3) .stopped (by decide +kernel)
  obtain ⟨panicked, hpanicked, h₃⟩ := (Cast.counting ⟨1, 0, .panicked⟩).exists_report
    (.atTime none) 50 ⟨some 3, .stopped⟩ none .stopped (by decide +kernel)
  obtain ⟨refused, hrefused, h₄⟩ := (Cast.counting ⟨1, 0, .panicked⟩).exists_report
    (.atTime none) 50 ⟨none, .stopped⟩ none .stopped (by decide +kernel)
  have hseason : Season (.ofRule 0) [⟨_, failed⟩, ⟨_, traded⟩, ⟨_, panicked⟩, ⟨_, refused⟩]
      refused.strategy :=
    .next hfailed (.next (h₁ ▸ htraded) (.next (h₂ ▸ hpanicked) (.next (h₃ ▸ hrefused) .rest)))
  obtain ⟨haccounted, hstopped, -⟩ := runs_conserve_rule 0 hseason
  refine ⟨_, _, hseason, ?_, haccounted, hstopped⟩
  simp only [List.map_cons, List.map_nil, h₁, h₂, h₃, h₄]

end Strategy

end Crossover

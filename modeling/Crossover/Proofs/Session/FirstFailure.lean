import Crossover.Proofs.Session.Attending
import Crossover.Proofs.Session.Replayed
import Crossover.Proofs.Trading.Transcript

/-!
# The first failure that counts

A trader forgives a lack of funds and the closing of a closed position, under whatever contexts
they come, and goes on. Any other failure ends its run: the trader returns it as it came, it has
not asked its rule about a later bar, and neither budget nor exchange is asked anything after the
question that failed.
-/

namespace Crossover

variable {α β γ κ ρ σ τ Q : Type}

/-- A failure that ends a run: any but a lack of funds and the closing of a closed position. -/
def Failure.IsFatal (f : Failure α) : Prop :=
  f.fault? ≠ some .alreadyClosed ∧ ∀ base alt, f.fault? ≠ some (.insufficientFunds base alt)

theorem Failure.isFatal_iff {f : Failure α} : f.IsFatal ↔ f.isRecoverable = false := by
  rcases f with ⟨contexts, fault | cause⟩
  · cases fault <;> simp [IsFatal, fault?, isRecoverable]
  · simp [IsFatal, fault?, isRecoverable]

/-- Contexts do not make a failure less fatal, nor more. -/
theorem Failure.isFatal_within (context : String) (f : Failure α) :
    (f.within context).IsFatal ↔ f.IsFatal := by
  rw [isFatal_iff, isFatal_iff, isRecoverable_within]

theorem Failure.forgiven_eq_ok_iff {ω : Type} {r : Except (Failure α) ω} :
    forgiven r = .ok () ↔ ∀ f, r = .error f → ¬ f.IsFatal := by
  constructor
  · intro h f hf hfatal
    rw [hf, forgiven, if_neg (Bool.eq_false_iff.mp (isFatal_iff.mp hfatal))] at h
    cases h
  · intro h
    refine forgiven_eq_ok fun f hf => ?_
    rw [← Bool.not_eq_false]
    exact fun hnot => h f hf (isFatal_iff.mpr hnot)

/-- All that is noted while bars are handled one after the other; what is noted of a bar may
depend on those before it. -/
def chronicle {γ ν : Type} (notes : List γ → γ → List ν) : List γ → List γ → List ν
  | _, [] => []
  | before, item :: rest => notes before item ++ chronicle notes (before ++ [item]) rest

theorem chronicle_concat {γ ν : Type} (notes : List γ → γ → List ν) (before items : List γ)
    (item : γ) : chronicle notes before (items ++ [item]) =
      chronicle notes before items ++ notes (before ++ items) item := by
  induction items generalizing before with
  | nil => simp [chronicle]
  | cons first rest ih => simp [chronicle, ih, List.append_assoc]

theorem chronicle_cons {γ ν : Type} (notes : List γ → γ → List ν) (first : γ)
    (before items : List γ) : chronicle notes (first :: before) items =
      chronicle (fun before => notes (first :: before)) before items := by
  induction items generalizing before with
  | nil => rfl
  | cons item rest ih => exact congrArg (notes (first :: before) item ++ ·) (ih (before ++ [item]))

theorem filter_chronicle {γ ν : Type} (p : ν → Bool) (notes : List γ → γ → List ν)
    (before items : List γ) : (chronicle notes before items).filter p =
      chronicle (fun before item => (notes before item).filter p) before items := by
  induction items generalizing before with
  | nil => rfl
  | cons item rest ih => rw [chronicle, List.filter_append, ih, chronicle]

/-- How a run over some bars comes out, where `raised` tells what a bar raises after others, and
`calls` what is asked for it, with the failures met. -/
structure Classified (raised : List (Candle α) → Candle α → Except (Failure α) Unit)
    (calls : List (Candle α) → Candle α → List (Q × Option (Failure α)))
    (bars asked : List (Candle α)) (e : Ending α) : Prop where
  /-- The run succeeds exactly when no bar it handled raised a fatal failure. -/
  ok_iff : e = .returned (.ok ()) ↔ ∀ before bar, before ++ [bar] <+: asked →
    ∀ f, raised before bar = .error f → ¬ f.IsFatal
  /-- Then the rule was asked about every bar, once and in order. -/
  complete : e = .returned (.ok ()) → asked = bars
  /-- Otherwise the first fatal failure is returned as it came, the bar that raised it is the last
  the rule was asked about, and the call that met it the last one made; or no call for that bar
  failed, and it could not be closed for the number of its orders. -/
  first : e ≠ .returned (.ok ()) → ∃ before bar f, e = .returned (.error f) ∧
    asked = before ++ [bar] ∧ asked <+: bars ∧ raised before bar = .error f ∧ f.IsFatal ∧
    (∀ before' bar', before' ++ [bar'] <+: before →
      ∀ f', raised before' bar' = .error f' → ¬ f'.IsFatal) ∧
    ((∃ earlier question, chronicle calls [] asked = earlier ++ [(question, some f)]) ∨
      f.IsOrderCount ∧ ∀ call ∈ calls before bar, call.2 = none)
  /-- Whatever failure a call for a bar meets, that is what the bar raises. -/
  met : ∀ before bar, before ++ [bar] <+: asked → ∀ question f,
    (question, some f) ∈ calls before bar → raised before bar = .error f

/-- The first bar that raises a fatal failure ends the run. -/
theorem Classified.ends_at {raised : List (Candle α) → Candle α → Except (Failure α) Unit}
    {calls : List (Candle α) → Candle α → List (Q × Option (Failure α))}
    {bars asked before : List (Candle α)} {e : Ending α} {bar : Candle α} {f : Failure α}
    (h : Classified raised calls bars asked e) (hbars : before ++ [bar] <+: bars)
    (hraised : raised before bar = .error f) (hfatal : f.IsFatal)
    (hcalm : ∀ before' bar', before' ++ [bar'] <+: before →
      ∀ f', raised before' bar' = .error f' → ¬ f'.IsFatal) :
    e = .returned (.error f) ∧ asked = before ++ [bar] := by
  have hfails : e ≠ .returned (.ok ()) := fun hok =>
    h.ok_iff.mp hok before bar (h.complete hok ▸ hbars) f hraised hfatal
  obtain ⟨before₁, bar₁, f₁, he, hasked, hprefix, hraised₁, hfatal₁, hcalm₁, -⟩ := h.first hfails
  rw [hasked] at hprefix
  -- of two first ones, neither comes before the other
  have hsame : before₁ ++ [bar₁] = before ++ [bar] := by
    rcases List.prefix_or_prefix_of_prefix hprefix hbars with hle | hle
    · rcases List.prefix_concat_iff.mp hle with hsame | hbefore
      · exact hsame
      · exact absurd hfatal₁ (hcalm before₁ bar₁ hbefore f₁ hraised₁)
    · rcases List.prefix_concat_iff.mp hle with hsame | hbefore
      · exact hsame.symm
      · exact absurd hfatal (hcalm₁ before bar hbefore f hraised)
  obtain ⟨rfl, hlast⟩ := List.append_inj' hsame rfl
  obtain rfl := List.singleton_inj.mp hlast
  rw [hraised] at hraised₁
  cases hraised₁
  exact ⟨he, hasked⟩

namespace Attendance

/-- A handler seen through what it does to a part of its state, and the items it has been asked
about. -/
structure SeenAs (handle : γ → τ → τ × Except (Failure α) Unit)
    (step : γ → σ → σ × Except (Failure α) Unit) (view : τ → σ) (asked : τ → List γ) : Prop where
  step_eq : ∀ item t, step item (view t) = (view (handle item t).1, (handle item t).2)
  asked_eq : ∀ item t, asked (handle item t).1 = asked t ++ [item]

variable {handle : γ → τ → τ × Except (Failure α) Unit}
  {step : γ → σ → σ × Except (Failure α) Unit} {view : τ → σ} {asked : τ → List γ}

def stepAll (step : γ → σ → σ × Except (Failure α) Unit) (items : List γ) (s : σ) : σ :=
  items.foldl (fun s item => (step item s).1) s

def AllPass (step : γ → σ → σ × Except (Failure α) Unit) (items : List γ) (s : σ) : Prop :=
  ∀ before item, before ++ [item] <+: items → (step item (stepAll step before s)).2 = .ok ()

theorem allPass_nil (s : σ) : AllPass step [] s := fun before item h =>
  absurd (List.prefix_nil.mp h) (by simp)

theorem AllPass.cons {item : γ} {items : List γ} {s : σ} (hitem : (step item s).2 = .ok ())
    (h : AllPass step items (step item s).1) : AllPass step (item :: items) s := by
  intro before last hprefix
  cases before with
  | nil =>
      obtain ⟨rfl, -⟩ := List.cons_prefix_cons.mp hprefix
      exact hitem
  | cons first before =>
      obtain ⟨rfl, hrest⟩ := List.cons_prefix_cons.mp hprefix
      exact h before last hrest

/-- All items are handled, or all up to the first that fails. -/
theorem handleEach_cases (h : SeenAs handle step view asked) (items : List γ) (t : τ) :
    AllPass step items (view t) ∧ (handleEach handle items t).2 = .ok () ∧
        asked (handleEach handle items t).1 = asked t ++ items ∨
      ∃ before item f, before ++ [item] <+: items ∧ AllPass step before (view t) ∧
        (step item (stepAll step before (view t))).2 = .error f ∧
        (handleEach handle items t).2 = .error f ∧
        asked (handleEach handle items t).1 = asked t ++ (before ++ [item]) := by
  induction items generalizing t with
  | nil => exact .inl ⟨allPass_nil _, rfl, (List.append_nil _).symm⟩
  | cons item items ih =>
      have hstep := h.step_eq item t
      have hasked := h.asked_eq item t
      rcases hhandle : handle item t with ⟨t', f | u⟩
      · rw [hhandle] at hstep hasked
        rw [handleEach_cons_error hhandle]
        exact .inr ⟨[], item, f, (List.prefix_cons_inj item).mpr List.nil_prefix, allPass_nil _,
          congrArg Prod.snd hstep, rfl, hasked⟩
      · rw [hhandle] at hstep hasked
        rw [handleEach_cons_ok hhandle]
        have hstate : (step item (view t)).1 = view t' := congrArg Prod.fst hstep
        have hpass : (step item (view t)).2 = .ok () := congrArg Prod.snd hstep
        rcases ih t' with ⟨hall, hdone, hasked'⟩ |
          ⟨before, last, f, hprefix, hall, hfails, hend, hasked'⟩
        · refine .inl ⟨.cons hpass (hstate ▸ hall), hdone, ?_⟩
          rw [hasked', hasked, List.append_assoc]
          rfl
        · refine .inr ⟨item :: before, last, f, (List.prefix_cons_inj item).mpr hprefix,
            .cons hpass (hstate ▸ hall), ?_, hend, ?_⟩
          · rw [stepAll, List.foldl_cons, hstate]
            exact hfails
          · rw [hasked', hasked, List.append_assoc]
            rfl

/-- What a handler logs of each item, it has logged of those it has been asked about. -/
theorem log_handleEach {C : Type} (h : SeenAs handle step view asked) (log : τ → List C)
    (notes : γ → σ → List C)
    (hlog : ∀ item t, log (handle item t).1 = log t ++ notes item (view t)) (items : List γ)
    (t : τ) : ∃ seen, asked (handleEach handle items t).1 = asked t ++ seen ∧
      log (handleEach handle items t).1 =
        log t ++
          chronicle (fun before item => notes item (stepAll step before (view t))) [] seen := by
  induction items generalizing t with
  | nil => exact ⟨[], (List.append_nil _).symm, (List.append_nil _).symm⟩
  | cons item items ih =>
      have hstep := h.step_eq item t
      have hasked := h.asked_eq item t
      have hnoted := hlog item t
      rcases hhandle : handle item t with ⟨t', f | u⟩
      · rw [hhandle] at hasked hnoted
        rw [handleEach_cons_error hhandle]
        exact ⟨[item], hasked, by rw [hnoted, chronicle, chronicle, List.append_nil]; rfl⟩
      · rw [hhandle] at hstep hasked hnoted
        rw [handleEach_cons_ok hhandle]
        have hstate : (step item (view t)).1 = view t' := congrArg Prod.fst hstep
        obtain ⟨seen, hseen, hlogged⟩ := ih t'
        refine ⟨item :: seen, ?_, ?_⟩
        · rw [hseen, hasked, List.append_assoc]
          rfl
        · rw [hlogged, hnoted, List.append_assoc, chronicle, List.nil_append, chronicle_cons,
            ← hstate]
          rfl

/-- A trader that forgives what a bar raises, unless it is fatal, and whose calls for a bar end
when one fails, comes out as its failures are classified. -/
theorem classified_of_handleEach {C : Type} {handle : Candle α → τ → τ × Except (Failure α) Unit}
    {step : Candle α → σ → σ × Except (Failure α) Unit} {view : τ → σ}
    {asked : τ → List (Candle α)} (h : SeenAs handle step view asked)
    {raised : Candle α → σ → Except (Failure α) Unit}
    {calls : Candle α → σ → List (C × Option (Failure α))}
    (hforgives : ∀ bar s, (step bar s).2 = Failure.forgiven (raised bar s))
    (hends : ∀ bar s f, raised bar s = .error f →
      Dialogue.EndsWith Failure.IsOrderCount f (calls bar s))
    (hmet : ∀ bar s question f, (question, some f) ∈ calls bar s → raised bar s = .error f)
    (bars : List (Candle α)) (t : τ) (hnone : asked t = []) :
    Classified (fun before bar => raised bar (stepAll step before (view t)))
      (fun before bar => calls bar (stepAll step before (view t))) bars
      (asked (handleEach handle bars t).1) (.returned (handleEach handle bars t).2) := by
  have hpass : ∀ {items : List (Candle α)}, AllPass step items (view t) →
      ∀ before bar, before ++ [bar] <+: items →
        ∀ f, raised bar (stepAll step before (view t)) = .error f → ¬ f.IsFatal := by
    intro items hall before bar hprefix
    have hok := hall before bar hprefix
    rw [hforgives] at hok
    exact Failure.forgiven_eq_ok_iff.mp hok
  rcases handleEach_cases h bars t with
    ⟨hall, hdone, hasked⟩ | ⟨before, bar, f, hprefix, hall, hfails, hend, hasked⟩
  · rw [hnone, List.nil_append] at hasked
    rw [hdone, hasked]
    exact ⟨⟨fun _ => hpass hall, fun _ => rfl⟩, fun _ => rfl, fun hne => absurd rfl hne,
      fun _ bar _ question f => hmet bar _ question f⟩
  · rw [hnone, List.nil_append] at hasked
    rw [hforgives] at hfails
    obtain ⟨hraised, hrecoverable⟩ := Failure.forgiven_eq_error hfails
    have hfatal := Failure.isFatal_iff.mpr hrecoverable
    rw [hend, hasked]
    have hne : Ending.returned (.error f) ≠ .returned (.ok ()) := fun hok => by cases hok
    refine ⟨⟨fun hok => absurd hok hne, fun hcalm => ?_⟩, fun hok => absurd hok hne, fun _ => ?_,
      fun _ bar _ question f => hmet bar _ question f⟩
    · exact absurd hfatal (hcalm before bar List.prefix_rfl f hraised)
    · refine ⟨before, bar, f, rfl, rfl, hprefix, hraised, hfatal, hpass hall, ?_⟩
      rcases hends bar _ f hraised with ⟨earlier, question, hcalls, -⟩ | hown
      · left
        rw [chronicle_concat, List.nil_append, hcalls]
        exact ⟨_, question, (List.append_assoc ..).symm⟩
      · exact .inr hown

end Attendance

namespace Limits

theorem heard_of_punctual {l : Limits} {since : Nat} {items : List (Nat × γ)}
    (h : l.Punctual since items) : l.heard since items = items := by
  induction items generalizing since with
  | nil => rfl
  | cons a rest ih => rw [heard_cons h.1, ih h.2]

/-- Items that come in time come before the idle time after the last of them is over. -/
theorem Punctual.lt_lastTime {l : Limits} {since d : Nat} {items : List (Nat × γ)}
    (h : l.Punctual since items) (hsorted : items.Pairwise (·.1 ≤ ·.1))
    (hsince : ∀ a ∈ items, since ≤ a.1) (hd : d ∈ l.idle) :
    ∀ a ∈ items, a.1 < lastTime since items + d := by
  have hle : ∀ (first : Nat) (rest : List (Nat × γ)), (∀ a ∈ rest, first ≤ a.1) →
      rest.Pairwise (·.1 ≤ ·.1) → first ≤ lastTime first rest ∧
        ∀ a ∈ rest, a.1 ≤ lastTime first rest := by
    intro first rest
    induction rest generalizing first with
    | nil => exact fun _ _ => ⟨Nat.le_refl _, fun a ha => absurd ha List.not_mem_nil⟩
    | cons a rest ih =>
        intro hfirst hpairs
        obtain ⟨hhead, htail⟩ := List.pairwise_cons.mp hpairs
        obtain ⟨hlast, hall⟩ := ih a.1 hhead htail
        rw [lastTime_cons]
        refine ⟨Nat.le_trans (hfirst a List.mem_cons_self) hlast, fun b hb => ?_⟩
        rcases List.mem_cons.mp hb with rfl | hb
        · exact hlast
        · exact hall b hb
  intro a ha
  cases items with
  | nil => exact absurd ha List.not_mem_nil
  | cons first rest =>
      have hpos := h.1.1 d hd
      have hfirst := hsince first List.mem_cons_self
      have := (hle since (first :: rest) hsince hsorted).2 a ha
      omega

end Limits

namespace Attendance

/-- Items that all come in time, on a line that is then closed. -/
theorem leaves_punctual (handle : γ → τ → τ × Except (Failure α) Unit) (idle : Option Nat)
    (close : Nat) (arrivals : List (Nat × γ)) (s : τ) (hsorted : arrivals.Pairwise (·.1 ≤ ·.1))
    (hpunctual : Limits.Punctual ⟨idle, none, some close⟩ 0 arrivals) :
    Line.Leaves (Arrivals.task α γ) (task handle idle)
      (.start (.begin arrivals (some close) none) (.begin idle 0 s))
      fun _ e a => e = .returned (handleEach handle (arrivals.map Prod.snd) s).2 ∧
        a.trader = (handleEach handle (arrivals.map Prod.snd) s).1 := by
  have hheard := Limits.heard_of_punctual hpunctual
  have hleaves := leaves_arrivals handle ⟨idle, none, some close⟩
    (.inr (Option.some_ne_none close)) arrivals s hsorted (fun a _ => by simp) fun a ha d hd => by
      rw [hheard]
      exact Nat.ne_of_lt (hpunctual.lt_lastTime hsorted (fun _ _ => Nat.zero_le _) hd a ha)
  rw [hheard] at hleaves
  exact hleaves.mono fun now e a h => ⟨h.1, h.2.1⟩

end Attendance

namespace Simulated

variable [Scalar α]

/-- What a bar raises in this state, before it is forgiven. -/
def raised (rule : Rule α ρ) (budget : Budget α β) (bar : Candle α) (s : Simulated α β × ρ) :
    Except (Failure α) Unit :=
  match (rule.advise s.2 bar).1 with
  | .hold => .ok ()
  | .advice side action => (attempt budget side action bar s.1).result

theorem handle_forgiven (rule : Rule α ρ) (budget : Budget α β) (bar : Candle α)
    (s : Simulated α β × ρ) :
    (handle rule budget bar s).1.result = Failure.forgiven (raised rule budget bar s) := by
  rw [handle_result, raised]
  cases (rule.advise s.2 bar).1 with
  | hold => rfl
  | advice side action => rw [follow, act_result]

theorem endsWith_callsFor (rule : Rule α ρ) (budget : Budget α β) (bar : Candle α)
    (s : Simulated α β × ρ) (f : Failure α) (h : raised rule budget bar s = .error f) :
    Dialogue.EndsWith Failure.IsOrderCount f (callsFor rule budget bar s) := by
  rw [raised] at h
  rw [callsFor]
  cases hsignal : (rule.advise s.2 bar).1 with
  | hold => rw [hsignal] at h; cases h
  | advice side action =>
      rw [hsignal] at h
      refine Dialogue.endsWith_calls (ownFailures_talk bar side action s.1.ledger) ?_
      rw [← attempt_outcome]
      exact h

theorem raised_of_failing (rule : Rule α ρ) (budget : Budget α β) (bar : Candle α)
    (s : Simulated α β × ρ) (question : Booking α) (f : Failure α)
    (h : (question, some f) ∈ callsFor rule budget bar s) :
    raised rule budget bar s = .error f := by
  rw [callsFor] at h
  rw [raised]
  cases hsignal : (rule.advise s.2 bar).1 with
  | hold =>
      rw [hsignal] at h
      exact absurd h List.not_mem_nil
  | advice side action =>
      rw [hsignal] at h
      have hrun := Dialogue.run_of_failing h
      rw [← attempt_outcome] at hrun
      exact hrun

def pass (rule : Rule α ρ) (budget : Budget α β) (bar : Candle α) (s : Simulated α β × ρ) :
    (Simulated α β × ρ) × Except (Failure α) Unit :=
  (((handle rule budget bar s).1.state, (handle rule budget bar s).2),
    (handle rule budget bar s).1.result)

theorem work_seenAs (rule : Rule α ρ) (budget : Budget α β) :
    Attendance.SeenAs (work rule.remembering budget) (pass rule budget)
      (fun w => (w.trader, w.rule.1)) (fun w => w.rule.2) :=
  ⟨fun _ _ => rfl, fun _ _ => rfl⟩

theorem recorded_work_seenAs (rule : Rule α ρ) (budget : Budget α β) :
    Attendance.SeenAs (work rule.remembering budget.recording) (pass rule budget)
      (fun w => (w.trader.view Prod.fst, w.rule.1)) (fun w => w.rule.2) := by
  refine ⟨fun bar w => ?_, fun _ _ => rfl⟩
  rw [pass, handle_view budget.recording_readAs bar w.trader rule w.rule.1]
  rfl

/-- The verdict on a run from this state, where a bar raises what is attempted for it comes to,
and the calls are those of the dialogue for it. -/
abbrev Verdict (rule : Rule α ρ) (budget : Budget α β) (s : Simulated α β × ρ) :
    List (Candle α) → List (Candle α) → Ending α → Prop :=
  Classified (fun before bar => raised rule budget bar (handleAll rule budget before s))
    (fun before bar => callsFor rule budget bar (handleAll rule budget before s))

abbrev callsOver (rule : Rule α ρ) (budget : Budget α β) (s : Simulated α β × ρ) :
    List (Candle α) → List (Booking α × Option (Failure α)) :=
  chronicle (fun before bar => callsFor rule budget bar (handleAll rule budget before s)) []

theorem verdict_of_handleEach (rule : Rule α ρ) (budget : Budget α β) (bars : List (Candle α))
    (s : Simulated α β) (r : ρ) :
    let run := Attendance.handleEach (work rule.remembering budget) bars (.begin s (r, []))
    Verdict rule budget (s, r) bars run.1.rule.2 (.returned run.2) :=
  Attendance.classified_of_handleEach (work_seenAs rule budget) (handle_forgiven rule budget)
    (endsWith_callsFor rule budget) (raised_of_failing rule budget) bars (.begin s (r, [])) rfl

theorem transcript_of_handleEach (rule : Rule α ρ) (budget : Budget α β)
    (bars : List (Candle α)) (s : Simulated α β) (r : ρ) :
    let run := Attendance.handleEach (work rule.remembering budget.recording) bars
      (.begin s.unasked (r, []))
    Verdict rule budget (s, r) bars run.1.rule.2 (.returned run.2) ∧
      run.1.trader.transcript = callsOver rule budget (s, r) run.1.rule.2 := by
  intro run
  refine ⟨Attendance.classified_of_handleEach (recorded_work_seenAs rule budget)
    (handle_forgiven rule budget) (endsWith_callsFor rule budget) (raised_of_failing rule budget)
    bars (.begin s.unasked (r, [])) rfl, ?_⟩
  obtain ⟨seen, hseen, hlog⟩ := Attendance.log_handleEach (recorded_work_seenAs rule budget)
    (fun w => w.trader.transcript) (callsFor rule budget)
    (fun bar w => transcript_handle rule.remembering budget bar w.trader w.rule) bars
    (.begin s.unasked (r, []))
  show run.1.trader.transcript = callsOver rule budget (s, r) run.1.rule.2
  rw [hlog, hseen]
  rfl

end Simulated

namespace Live

def raised (rule : Rule α ρ) (budget : Budget α β) (exchange : Exchange α κ) (bar : Candle α)
    (s : Live α β κ × ρ) : Except (Failure α) Unit :=
  match (rule.advise s.2 bar).1 with
  | .hold => .ok ()
  | .advice side action =>
    (attempt budget exchange side action bar s.1).result.map fun _ => ()

variable (rule : Rule α ρ) (budget : Budget α β) (exchange : Exchange α κ)

theorem handle_forgiven (bar : Candle α) (s : Live α β κ × ρ) :
    (handle rule budget exchange bar s).1.result =
      Failure.forgiven (raised rule budget exchange bar s) := by
  rw [handle_result, raised]
  cases (rule.advise s.2 bar).1 with
  | hold => rfl
  | advice side action => rw [follow, act_result, Failure.forgiven_map]

theorem endsWith_callsFor (bar : Candle α) (s : Live α β κ × ρ) (f : Failure α)
    (h : raised rule budget exchange bar s = .error f) :
    Dialogue.EndsWith Failure.IsOrderCount f (callsFor rule budget exchange bar s) := by
  rw [raised] at h
  rw [callsFor]
  cases hsignal : (rule.advise s.2 bar).1 with
  | hold => rw [hsignal] at h; cases h
  | advice side action =>
      rw [hsignal] at h
      dsimp only at h
      refine Dialogue.endsWith_calls (ownFailures_talk bar s.1.current side action) ?_
      rw [← attempt_outcome]
      cases hresult : (attempt budget exchange side action bar s.1).result with
      | ok reply => rw [hresult] at h; cases h
      | error f' =>
          rw [hresult] at h
          cases h
          exact hresult

theorem raised_of_failing (bar : Candle α) (s : Live α β κ × ρ) (question : Query α)
    (f : Failure α) (h : (question, some f) ∈ callsFor rule budget exchange bar s) :
    raised rule budget exchange bar s = .error f := by
  rw [callsFor] at h
  rw [raised]
  cases hsignal : (rule.advise s.2 bar).1 with
  | hold =>
      rw [hsignal] at h
      exact absurd h List.not_mem_nil
  | advice side action =>
      rw [hsignal] at h
      have hrun := Dialogue.run_of_failing h
      rw [← attempt_outcome] at hrun
      have hresult : (attempt budget exchange side action bar s.1).result = .error f := hrun
      dsimp only
      rw [hresult]
      rfl

def pass (bar : Candle α) (s : Live α β κ × ρ) : (Live α β κ × ρ) × Except (Failure α) Unit :=
  (((handle rule budget exchange bar s).1.state, (handle rule budget exchange bar s).2),
    (handle rule budget exchange bar s).1.result)

theorem work_seenAs :
    Attendance.SeenAs (work rule.remembering budget exchange) (pass rule budget exchange)
      (fun w => (w.trader, w.rule.1)) (fun w => w.rule.2) :=
  ⟨fun _ _ => rfl, fun _ _ => rfl⟩

theorem recorded_work_seenAs :
    Attendance.SeenAs (work rule.remembering budget.recording exchange.recording)
      (pass rule budget exchange) (fun w => (bare w.trader, w.rule.1)) (fun w => w.rule.2) := by
  refine ⟨fun bar w => ?_, fun _ _ => rfl⟩
  obtain ⟨hstate, hresult⟩ := handle_bare budget exchange rule bar w.trader w.rule.1
  rw [pass, hstate, hresult]
  rfl

/-- The verdict on a run from this state, where a bar raises what is attempted for it comes to,
and the calls are those of the dialogue for it. -/
abbrev Verdict (s : Live α β κ × ρ) : List (Candle α) → List (Candle α) → Ending α → Prop :=
  Classified
    (fun before bar => raised rule budget exchange bar
      (handleAll rule budget (fun _ => exchange) before s))
    (fun before bar => callsFor rule budget exchange bar
      (handleAll rule budget (fun _ => exchange) before s))

abbrev callsOver (s : Live α β κ × ρ) : List (Candle α) → List (Query α × Option (Failure α)) :=
  chronicle (fun before bar => callsFor rule budget exchange bar
    (handleAll rule budget (fun _ => exchange) before s)) []

theorem verdict_of_handleEach (bars : List (Candle α)) (s : Live α β κ) (r : ρ) :
    let run := Attendance.handleEach (work rule.remembering budget exchange) bars
      (.begin s (r, []))
    Verdict rule budget exchange (s, r) bars run.1.rule.2 (.returned run.2) :=
  Attendance.classified_of_handleEach (work_seenAs rule budget exchange)
    (handle_forgiven rule budget exchange) (endsWith_callsFor rule budget exchange)
    (raised_of_failing rule budget exchange) bars (.begin s (r, [])) rfl

/-- What budget and exchange have recorded of some bars are the calls made for them. -/
structure Heard (s : Live α β κ × ρ) (bars : List (Candle α)) (t : Overheard α β κ) : Prop where
  bookings_eq : t.bookings = (callsOver rule budget exchange s bars).filter (·.1.isBooking)
  queries_eq : t.queries = (callsOver rule budget exchange s bars).filter (!·.1.isBooking)

theorem heard_of_handleEach (bars : List (Candle α)) (s : Live α β κ) (r : ρ) :
    let run := Attendance.handleEach
      (work rule.remembering budget.recording exchange.recording) bars (.begin s.overhear (r, []))
    Verdict rule budget exchange (s, r) bars run.1.rule.2 (.returned run.2) ∧
      Heard rule budget exchange (s, r) run.1.rule.2 run.1.trader := by
  intro run
  have hseen := recorded_work_seenAs rule budget exchange
  have hlogs := fun bar (w : Working α (β × List (Budget.Call α)) (κ × List (Exchange.Call α))
      (ρ × List (Candle α))) =>
    transcripts_handle budget exchange rule.remembering bar w.trader w.rule
  refine ⟨Attendance.classified_of_handleEach hseen (handle_forgiven rule budget exchange)
    (endsWith_callsFor rule budget exchange) (raised_of_failing rule budget exchange)
    bars (.begin s.overhear (r, [])) rfl, ?_, ?_⟩
  · obtain ⟨seen, hasked, hlog⟩ := Attendance.log_handleEach hseen (fun w => w.trader.bookings)
      (fun bar s => (callsFor rule budget exchange bar s).filter (·.1.isBooking))
      (fun bar w => (hlogs bar w).1) bars (.begin s.overhear (r, []))
    rw [hlog, hasked, callsOver, filter_chronicle]
    rfl
  · obtain ⟨seen, hasked, hlog⟩ := Attendance.log_handleEach hseen (fun w => w.trader.queries)
      (fun bar s => (callsFor rule budget exchange bar s).filter (!·.1.isBooking))
      (fun bar w => (hlogs bar w).2) bars (.begin s.overhear (r, []))
    rw [hlog, hasked, callsOver, filter_chronicle]
    rfl

end Live

/-- Bars that come before a line is closed come in time where nobody gives up waiting. -/
theorem Limits.punctual_of_le_close {close : Nat} (since : Nat) {items : List (Nat × γ)}
    (h : ∀ a ∈ items, a.1 ≤ close) : Limits.Punctual ⟨none, none, some close⟩ since items := by
  induction items generalizing since with
  | nil => trivial
  | cons first rest ih =>
      refine ⟨⟨fun d hd => absurd hd (Option.not_mem_none d),
        fun d hd => absurd hd (Option.not_mem_none d), fun c hc => ?_⟩,
        ih first.1 fun a ha => h a (List.mem_cons_of_mem _ ha)⟩
      cases hc
      exact h first List.mem_cons_self

/-- Both traders come out of the bars that arrive on a line that is then closed as their failures
are classified, whatever the budget and the exchange answer; where these record what they are
asked, they have recorded the calls that the verdict is about. The simulated trader must hear each
bar within its idle time. -/
theorem failures_classified [Scalar α] (rule : Rule α ρ) (r : ρ) (budget : Budget α β)
    (exchange : Exchange α κ) (arrivals : List (Nat × Candle α)) (close : Nat)
    (hsorted : arrivals.Pairwise (·.1 ≤ ·.1)) (hclose : ∀ a ∈ arrivals, a.1 ≤ close) :
    (∀ (s : Simulated α β) (idle : Nat),
      Limits.Punctual ⟨some idle, none, some close⟩ 0 arrivals →
      Line.Leaves (Arrivals.task α (Candle α)) (Simulated.task rule.remembering budget idle)
        (.start (.begin arrivals (some close) none) (Simulated.begin idle s (r, [])))
        (fun _ e a =>
          Simulated.Verdict rule budget (s, r) (arrivals.map Prod.snd) a.trader.rule.2 e) ∧
      Line.Leaves (Arrivals.task α (Candle α))
        (Simulated.task rule.remembering budget.recording idle)
        (.start (.begin arrivals (some close) none) (Simulated.begin idle s.unasked (r, [])))
        fun _ e a =>
          Simulated.Verdict rule budget (s, r) (arrivals.map Prod.snd) a.trader.rule.2 e ∧
          a.trader.trader.transcript = Simulated.callsOver rule budget (s, r) a.trader.rule.2) ∧
    ∀ s : Live α β κ,
      Line.Leaves (Arrivals.task α (Candle α)) (Live.task rule.remembering budget exchange)
        (.start (.begin arrivals (some close) none) (Live.begin s (r, [])))
        (fun _ e a =>
          Live.Verdict rule budget exchange (s, r) (arrivals.map Prod.snd) a.trader.rule.2 e) ∧
      Line.Leaves (Arrivals.task α (Candle α))
        (Live.task rule.remembering budget.recording exchange.recording)
        (.start (.begin arrivals (some close) none) (Live.begin s.overhear (r, [])))
        fun _ e a =>
          Live.Verdict rule budget exchange (s, r) (arrivals.map Prod.snd) a.trader.rule.2 e ∧
          Live.Heard rule budget exchange (s, r) a.trader.rule.2 a.trader.trader := by
  constructor
  · intro s idle hpunctual
    constructor
    · refine (Attendance.leaves_punctual (Simulated.work rule.remembering budget) (some idle)
        close arrivals (.begin s (r, [])) hsorted hpunctual).mono fun now e a h => ?_
      rw [h.1, h.2]
      exact Simulated.verdict_of_handleEach rule budget (arrivals.map Prod.snd) s r
    · refine (Attendance.leaves_punctual (Simulated.work rule.remembering budget.recording)
        (some idle) close arrivals (.begin s.unasked (r, [])) hsorted hpunctual).mono
          fun now e a h => ?_
      rw [h.1, h.2]
      exact Simulated.transcript_of_handleEach rule budget (arrivals.map Prod.snd) s r
  · intro s
    have hpunctual := Limits.punctual_of_le_close 0 hclose
    constructor
    · refine (Attendance.leaves_punctual (Live.work rule.remembering budget exchange) none
        close arrivals (.begin s (r, [])) hsorted hpunctual).mono fun now e a h => ?_
      rw [h.1, h.2]
      exact Live.verdict_of_handleEach rule budget exchange (arrivals.map Prod.snd) s r
    · refine (Attendance.leaves_punctual
        (Live.work rule.remembering budget.recording exchange.recording) none close arrivals
        (.begin s.overhear (r, [])) hsorted hpunctual).mono fun now e a h => ?_
      rw [h.1, h.2]
      exact Live.heard_of_handleEach rule budget exchange (arrivals.map Prod.snd) s r

section Unreachable

def eager : Rule Float Unit where
  name _ := "eager"
  advise _ _ := (.advice .buy .openPosition, ())
  remark _ _ _ := none

def unreachable : Failure Float := ⟨["booking"], .outside .transport "reset" []⟩

/-- A budget that grants a lot each time but the second, when it cannot be reached. -/
def onceUnreachable : Budget Float Nat where
  bookOpen n _ _ := if n = 1 then (.error unreachable, n + 1) else (.ok 10, n + 1)
  bookClose n _ _ _ := (.ok 10, n)

theorem unreachable_isFatal : unreachable.IsFatal :=
  (Failure.isFatal_within "booking" ⟨[], .outside .transport "reset" []⟩).mpr
    (Failure.isFatal_iff.mpr rfl)

/-- Of three bars that shall each open a position the second cannot be booked: both traders return
that failure, and have neither asked about the third bar nor asked anything more for the second. -/
theorem second_booking_ends_run :
    Line.Leaves (Arrivals.task Float (Candle Float))
        (Simulated.task eager.remembering onceUnreachable 5)
        (.start (.begin [(1, .blank), (2, .blank), (3, .blank)] (some 9) none)
          (Simulated.begin 5 (.start 0) ((), [])))
        (fun _ e a => e = .returned (.error unreachable) ∧ a.trader.rule.2 = [.blank, .blank]) ∧
      Line.Leaves (Arrivals.task Float (Candle Float))
        (Simulated.task eager.remembering onceUnreachable.recording 5)
        (.start (.begin [(1, .blank), (2, .blank), (3, .blank)] (some 9) none)
          (Simulated.begin 5 (Simulated.start 0).unasked ((), [])))
        (fun _ e a => e = .returned (.error unreachable) ∧ a.trader.rule.2 = [.blank, .blank] ∧
          a.trader.trader.transcript = [(.opening .buy .blank, none),
            (.closing .buy .opened .blank, none), (.opening .buy .blank, some unreachable)]) ∧
      Line.Leaves (Arrivals.task Float (Candle Float))
        (Live.task eager.remembering onceUnreachable.recording (storedExchange Float).recording)
        (.start (.begin [(1, .blank), (2, .blank), (3, .blank)] (some 9) none)
          (Live.begin (Live.start 0 (.ofPositions [] fun _ => 1)).overhear ((), [])))
        fun _ e a => e = .returned (.error unreachable) ∧ a.trader.rule.2 = [.blank, .blank] ∧
          a.trader.trader.bookings = [(.booking (.opening .buy .blank), none),
            (.booking (.closing .buy .opened .blank), none),
            (.booking (.opening .buy .blank), some unreachable)] ∧
          a.trader.trader.queries = [(.creation ⟨"", .buy⟩ 10, none),
            (.ordering ⟨"n1", 10, .sell⟩, none), (.closing "n1", none)] := by
  have hruns := failures_classified eager () onceUnreachable (storedExchange Float)
    [(1, .blank), (2, .blank), (3, .blank)] 9 (by simp) (by simp)
  obtain ⟨hbare, hrecorded⟩ := hruns.1 (.start 0) 5 (by decide)
  obtain ⟨-, hlive⟩ := hruns.2 (.start 0 (.ofPositions [] fun _ => 1))
  have hbars : [Candle.blank] ++ [.blank] <+: [(.blank : Candle Float), .blank, .blank] :=
    ⟨[.blank], rfl⟩
  have honly : ∀ before bar, before ++ [bar] <+: [(.blank : Candle Float)] →
      before = [] ∧ bar = .blank := by
    intro before bar h
    have hlength : (before ++ [bar]).length ≤ 1 := h.length_le
    rw [List.length_append, List.length_singleton] at hlength
    obtain rfl : before = [] := List.eq_nil_of_length_eq_zero (by omega)
    exact ⟨rfl, (List.cons_prefix_cons.mp h).1⟩
  have hends : ∀ {asked : List (Candle Float)} {e : Ending Float},
      Simulated.Verdict eager onceUnreachable (.start 0, ()) [.blank, .blank, .blank] asked e →
        e = .returned (.error unreachable) ∧ asked = [.blank, .blank] := fun h => by
    refine h.ends_at hbars rfl unreachable_isFatal fun before bar hbefore f hf => ?_
    obtain ⟨rfl, rfl⟩ := honly before bar hbefore
    have hok : Simulated.raised eager onceUnreachable .blank (.start 0, ()) = .ok () := rfl
    cases hok.symm.trans hf
  refine ⟨hbare.mono fun _ e a h => hends h, hrecorded.mono fun _ e a h => ?_,
    hlive.mono fun _ e a h => ?_⟩
  · obtain ⟨he, hasked⟩ := hends h.1
    refine ⟨he, hasked, ?_⟩
    rw [h.2, hasked]
    rfl
  · obtain ⟨he, hasked⟩ := h.1.ends_at hbars rfl unreachable_isFatal
      fun before bar hbefore f hf => by
        obtain ⟨rfl, rfl⟩ := honly before bar hbefore
        have hok : Live.raised eager onceUnreachable (storedExchange Float) .blank
          (.start 0 (.ofPositions [] fun _ => 1), ()) = .ok () := rfl
        cases hok.symm.trans hf
    refine ⟨he, hasked, ?_, ?_⟩
    · rw [h.2.bookings_eq, hasked]
      rfl
    · rw [h.2.queries_eq, hasked]
      rfl

end Unreachable

end Crossover

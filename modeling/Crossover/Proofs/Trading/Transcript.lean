import Crossover.Proofs.Trading.Calls
import Crossover.Proofs.Trading.Dialogue
import Crossover.Proofs.Trading.ExchangeCalls

/-!
# Transcripts

A budget and an exchange that record what they are asked keep a transcript of the dialogues of a
trader between them: the calls recorded while a bar is handled are those that the dialogue for it
lists, each with the failure it met.
-/

namespace Crossover

variable {α β κ ρ : Type}

def Failure.of? {ω : Type} : Except (Failure α) ω → Option (Failure α)
  | .ok _ => none
  | .error f => some f

namespace Dialogue

variable {Q : Type} {R : Q → Type} {μ ω υ υ' : Type}

/-- A desk that answers as another one does, and logs the questions of one kind. -/
structure Logs (desk' : Desk R α υ') (desk : Desk R α υ) (read : υ' → υ) (kind : Q → Bool)
    (log : υ' → List (Q × Option (Failure α))) : Prop where
  answers : ∀ question u,
    desk question (read u) = ((desk' question u).1, read (desk' question u).2)
  adds : ∀ question u, log (desk' question u).2 =
    log u ++ [(question, Failure.of? (desk' question u).1)].filter fun c => kind c.1

variable {desk' : Desk R α υ'} {desk : Desk R α υ} {read : υ' → υ} {kind : Q → Bool}
  {log : υ' → List (Q × Option (Failure α))}

theorem run_read (h : Logs desk' desk read kind log) (d : Dialogue R α μ ω) (u : υ') :
    d.run desk (read u) = ((read (d.run desk' u).1.1, (d.run desk' u).1.2), (d.run desk' u).2) := by
  induction d generalizing u with
  | done mind result => rfl
  | ask mind question next ih =>
      have hanswer := h.answers question u
      rcases hdesk : desk' question u with ⟨f | reply, u'⟩
      · rw [hdesk] at hanswer
        rw [run_ask_error hanswer, run_ask_error hdesk]
      · rw [hdesk] at hanswer
        rw [run_ask_ok hanswer, run_ask_ok hdesk]
        exact ih reply u'

/-- What is logged on the way are the questions of the dialogue. -/
theorem log_run (h : Logs desk' desk read kind log) (d : Dialogue R α μ ω) (u : υ') :
    log (d.run desk' u).1.1 =
      log u ++ (d.calls desk (read u)).filter fun c => kind c.1 := by
  induction d generalizing u with
  | done mind result => exact (List.append_nil _).symm
  | ask mind question next ih =>
      have hanswer := h.answers question u
      have hadds := h.adds question u
      rcases hdesk : desk' question u with ⟨f | reply, u'⟩
      · rw [hdesk] at hanswer hadds
        rw [run_ask_error hdesk, calls_ask_error hanswer]
        exact hadds
      · rw [hdesk] at hanswer hadds
        rw [run_ask_ok hdesk, calls_ask_ok hanswer, ih reply u', hadds, List.append_assoc,
          ← List.filter_append]
        rfl

end Dialogue

namespace Budget

def Call.met : Call α → Booking α × Option (Failure α)
  | .opening side candle reply => (.opening side candle, Failure.of? reply)
  | .closing side status candle reply => (.closing side status candle, Failure.of? reply)

theorem recording_logs (budget : Budget α β) :
    Dialogue.Logs budget.recording.answer budget.answer Prod.fst (fun _ => true)
      (fun b => b.2.map Call.met) where
  answers question b := by cases question <;> rfl
  adds question b := by cases question <;> simp [answer, recording, Call.met]

end Budget

namespace Simulated

variable [Scalar α]

/-- The calls made for a bar in this state. -/
def callsFor (rule : Rule α ρ) (budget : Budget α β) (bar : Candle α) (s : Simulated α β × ρ) :
    List (Booking α × Option (Failure α)) :=
  match (rule.advise s.2 bar).1 with
  | .hold => []
  | .advice side action => (talk side action bar s.1.ledger).calls budget.answer s.1.budget

def transcript (s : Simulated α (β × List (Budget.Call α))) :
    List (Booking α × Option (Failure α)) :=
  s.budget.2.map Budget.Call.met

theorem transcript_attempt (budget : Budget α β) (side : Side) (action : Action)
    (bar : Candle α) (s : Simulated α (β × List (Budget.Call α))) :
    (attempt budget.recording side action bar s).state.transcript =
      s.transcript ++ (talk side action bar s.ledger).calls budget.answer s.budget.1 := by
  have hlog := Dialogue.log_run budget.recording_logs (talk side action bar s.ledger) s.budget
  rw [← attempt_outcome, List.filter_true] at hlog
  exact hlog

theorem transcript_handle (rule : Rule α ρ) (budget : Budget α β) (bar : Candle α)
    (s : Simulated α (β × List (Budget.Call α))) (r : ρ) :
    (handle rule budget.recording bar (s, r)).1.state.transcript =
      s.transcript ++ callsFor rule budget bar (s.view Prod.fst, r) := by
  rw [handle_state, callsFor]
  cases (rule.advise r bar).1 with
  | hold => exact (List.append_nil _).symm
  | advice side action =>
      rw [follow, act_state]
      exact transcript_attempt budget side action bar s

end Simulated

def Query.isBooking : Query α → Bool
  | .booking _ => true
  | _ => false

def Exchange.Call.met : Exchange.Call α → Query α × Option (Failure α)
  | .listing reply => (.listing, Failure.of? reply)
  | .lookup reply => (.newest, Failure.of? reply)
  | .creation new quantity reply => (.creation new quantity, Failure.of? reply)
  | .ordering new reply => (.ordering new, Failure.of? reply)
  | .closing id reply => (.closing id, Failure.of? reply)

namespace Live

def callsFor (rule : Rule α ρ) (budget : Budget α β) (exchange : Exchange α κ) (bar : Candle α)
    (s : Live α β κ × ρ) : List (Query α × Option (Failure α)) :=
  match (rule.advise s.2 bar).1 with
  | .hold => []
  | .advice side action => (talk side action bar s.1.current).calls (answer budget exchange)
      (s.1.budget, s.1.exchange)

/-- A trader whose budget and whose exchange record. -/
abbrev Overheard (α β κ : Type) : Type :=
  Live α (β × List (Budget.Call α)) (κ × List (Exchange.Call α))

def overhear (s : Live α β κ) : Overheard α β κ := ⟨(s.budget, []), (s.exchange, []), s.current⟩

def bare (s : Overheard α β κ) : Live α β κ := ⟨s.budget.1, s.exchange.1, s.current⟩

def bookings (s : Overheard α β κ) : List (Query α × Option (Failure α)) :=
  s.budget.2.map fun call => (.booking call.met.1, call.met.2)

def queries (s : Overheard α β κ) : List (Query α × Option (Failure α)) :=
  s.exchange.2.map Exchange.Call.met

variable (budget : Budget α β) (exchange : Exchange α κ)

theorem recording_logs_bookings :
    Dialogue.Logs (answer budget.recording exchange.recording) (answer budget exchange)
      (fun u => (u.1.1, u.2.1)) Query.isBooking
      (fun u => u.1.2.map fun call => (.booking call.met.1, call.met.2)) where
  answers question u := by
    cases question with
    | booking booking => cases booking <;> rfl
    | _ => rfl
  adds question u := by
    cases question with
    | booking booking => cases booking <;> exact List.map_append
    | _ => exact (List.append_nil _).symm

theorem recording_logs_queries :
    Dialogue.Logs (answer budget.recording exchange.recording) (answer budget exchange)
      (fun u => (u.1.1, u.2.1)) (fun question => !question.isBooking)
      (fun u => u.2.2.map Exchange.Call.met) where
  answers := (recording_logs_bookings budget exchange).answers
  adds question u := by
    cases question with
    | booking booking => exact (List.append_nil _).symm
    | _ => exact List.map_append

theorem Turn.state_eq {ω : Type} (t : Turn α β κ ω) :
    t.state = ⟨t.outcome.1.1.1, t.outcome.1.1.2, t.outcome.1.2⟩ := rfl

variable (rule : Rule α ρ) (bar : Candle α) (s : Overheard α β κ)

/-- An attempt with budget and exchange recording is the bare one. -/
theorem attempt_bare (side : Side) (action : Action) :
    (attempt budget exchange side action bar s.bare).state =
        (attempt budget.recording exchange.recording side action bar s).state.bare ∧
      (attempt budget exchange side action bar s.bare).result =
        (attempt budget.recording exchange.recording side action bar s).result := by
  have hrun := Dialogue.run_read (recording_logs_bookings budget exchange)
    (talk side action bar s.current) (s.budget, s.exchange)
  rw [← attempt_outcome] at hrun
  have houtcome := (attempt_outcome budget exchange bar s.bare side action).trans hrun
  refine ⟨?_, congrArg Prod.snd houtcome⟩
  rw [Turn.state_eq, houtcome]
  rfl

theorem handle_bare (r : ρ) :
    (handle rule budget exchange bar (s.bare, r)).1.state =
        (handle rule budget.recording exchange.recording bar (s, r)).1.state.bare ∧
      (handle rule budget exchange bar (s.bare, r)).1.result =
        (handle rule budget.recording exchange.recording bar (s, r)).1.result := by
  rw [handle_state, handle_result, handle_state, handle_result]
  cases (rule.advise r bar).1 with
  | hold => exact ⟨rfl, rfl⟩
  | advice side action =>
      obtain ⟨hstate, hresult⟩ := attempt_bare budget exchange bar s side action
      rw [follow, follow, act_state, act_state, act_result, act_result, hstate, hresult]
      exact ⟨rfl, rfl⟩

/-- What budget and exchange record while a bar is handled are the calls made for it. -/
theorem transcripts_handle (r : ρ) :
    (handle rule budget.recording exchange.recording bar (s, r)).1.state.bookings =
        s.bookings ++
          (callsFor rule budget exchange bar (s.bare, r)).filter (·.1.isBooking) ∧
      (handle rule budget.recording exchange.recording bar (s, r)).1.state.queries =
        s.queries ++
          (callsFor rule budget exchange bar (s.bare, r)).filter (!·.1.isBooking) := by
  rw [handle_state, callsFor]
  cases (rule.advise r bar).1 with
  | hold => exact ⟨(List.append_nil _).symm, (List.append_nil _).symm⟩
  | advice side action =>
      have hbookings := Dialogue.log_run (recording_logs_bookings budget exchange)
        (talk side action bar s.current) (s.budget, s.exchange)
      have hqueries := Dialogue.log_run (recording_logs_queries budget exchange)
        (talk side action bar s.current) (s.budget, s.exchange)
      rw [← attempt_outcome] at hbookings hqueries
      rw [follow, act_state]
      exact ⟨hbookings, hqueries⟩

end Live

end Crossover

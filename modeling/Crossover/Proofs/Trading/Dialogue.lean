import Crossover.Proofs.Trading.Dealings

/-!
# Dialogues

What a trader attempts for an advice, written as a dialogue with its budget and its exchange:
one question after the other, each asked for the answer to the one before. A question that fails
ends the dialogue. The attempts of both traders are such dialogues, so that the questions of an
attempt can be listed in their order.
-/

namespace Crossover

/-- A dialogue of somebody who keeps something in mind, in `μ`, and asks questions in `Q`. When
a question fails nothing more is asked, and what was kept in mind when it was asked stays. -/
inductive Dialogue {Q : Type} (R : Q → Type) (α μ ω : Type)
  | done (mind : μ) (result : Except (Failure α) ω)
  | ask (mind : μ) (question : Q) (next : R question → Dialogue R α μ ω)

namespace Dialogue

variable {Q : Type} {R : Q → Type} {α μ ω ω' υ : Type}

/-- Those who answer the questions, with states in `υ`. -/
abbrev Desk (R : Q → Type) (α υ : Type) : Type :=
  (question : Q) → υ → Except (Failure α) (R question) × υ

def run (desk : Desk R α υ) : Dialogue R α μ ω → υ → (υ × μ) × Except (Failure α) ω
  | .done mind result, u => ((u, mind), result)
  | .ask mind question next, u =>
    match desk question u with
    | (.error f, u) => ((u, mind), .error f)
    | (.ok reply, u) => run desk (next reply) u

/-- The questions asked, each with the failure it met, if any. -/
def calls (desk : Desk R α υ) : Dialogue R α μ ω → υ → List (Q × Option (Failure α))
  | .done _ _, _ => []
  | .ask _ question next, u =>
    match desk question u with
    | (.error f, _) => [(question, some f)]
    | (.ok reply, u) => (question, none) :: calls desk (next reply) u

/-- Goes on with a second dialogue once the first is done, unless it has failed. -/
def bind : Dialogue R α μ ω → (μ → ω → Dialogue R α μ ω') → Dialogue R α μ ω'
  | .done mind (.error f), _ => .done mind (.error f)
  | .done mind (.ok x), more => more mind x
  | .ask mind question next, more => .ask mind question fun reply => (next reply).bind more

/-- All failures that a dialogue finds by itself, and not in an answer, are of this kind. -/
def OwnFailures (P : Failure α → Prop) : Dialogue R α μ ω → Prop
  | .done _ result => ∀ f, result = .error f → P f
  | .ask _ _ next => ∀ reply, (next reply).OwnFailures P

section Run

variable {desk : Desk R α υ} {u u' : υ} {mind : μ} {question : Q}
  {next : R question → Dialogue R α μ ω}

theorem run_ask_error {f : Failure α} (h : desk question u = (.error f, u')) :
    (ask mind question next).run desk u = ((u', mind), .error f) := by
  rw [run, h]

theorem run_ask_ok {reply : R question} (h : desk question u = (.ok reply, u')) :
    (ask mind question next).run desk u = (next reply).run desk u' := by
  rw [run, h]

theorem calls_ask_error {f : Failure α} (h : desk question u = (.error f, u')) :
    (ask mind question next).calls desk u = [(question, some f)] := by
  rw [calls, h]

theorem calls_ask_ok {reply : R question} (h : desk question u = (.ok reply, u')) :
    (ask mind question next).calls desk u = (question, none) :: (next reply).calls desk u' := by
  rw [calls, h]

end Run

theorem run_bind (desk : Desk R α υ) (d : Dialogue R α μ ω)
    (more : μ → ω → Dialogue R α μ ω') (u : υ) :
    (d.bind more).run desk u =
      match d.run desk u with
      | (s, .error f) => (s, .error f)
      | ((u, mind), .ok x) => (more mind x).run desk u := by
  induction d generalizing u with
  | done mind result => cases result <;> rfl
  | ask mind question next ih =>
      rw [bind]
      rcases hdesk : desk question u with ⟨f | reply, u'⟩
      · rw [run_ask_error hdesk, run_ask_error hdesk]
      · rw [run_ask_ok hdesk, run_ask_ok hdesk]
        exact ih reply u'

theorem ownFailures_bind {P : Failure α → Prop} {d : Dialogue R α μ ω}
    {more : μ → ω → Dialogue R α μ ω'} (hd : d.OwnFailures P)
    (hmore : ∀ mind x, (more mind x).OwnFailures P) : (d.bind more).OwnFailures P := by
  induction d with
  | done mind result =>
      cases result with
      | error f => exact fun f' hf => hd f' (by cases hf; rfl)
      | ok x => exact hmore mind x
  | ask mind question next ih => exact fun reply => ih reply (hd reply)

/-- How a list of calls ends when all comes to this failure: it was met by the last question, or
by none. -/
def EndsWith (P : Failure α → Prop) (f : Failure α) (calls : List (Q × Option (Failure α))) :
    Prop :=
  (∃ earlier question, calls = earlier ++ [(question, some f)] ∧ ∀ c ∈ earlier, c.2 = none) ∨
    (P f ∧ ∀ c ∈ calls, c.2 = none)

theorem EndsWith.cons {P : Failure α → Prop} {f : Failure α}
    {calls : List (Q × Option (Failure α))} (question : Q) (h : EndsWith P f calls) :
    EndsWith P f ((question, none) :: calls) := by
  rcases h with ⟨earlier, last, rfl, hearlier⟩ | ⟨hown, hcalls⟩
  · refine .inl ⟨(question, none) :: earlier, last, rfl, fun c hc => ?_⟩
    rcases List.mem_cons.mp hc with rfl | hc
    · rfl
    · exact hearlier c hc
  · refine .inr ⟨hown, fun c hc => ?_⟩
    rcases List.mem_cons.mp hc with rfl | hc
    · rfl
    · exact hcalls c hc

/-- Nothing is asked after a question that fails. -/
theorem endsWith_calls {P : Failure α → Prop} {desk : Desk R α υ} {d : Dialogue R α μ ω} {u : υ}
    {f : Failure α} (hown : d.OwnFailures P) (h : (d.run desk u).2 = .error f) :
    EndsWith P f (d.calls desk u) := by
  induction d generalizing u with
  | done mind result => exact .inr ⟨hown f h, fun c hc => absurd hc List.not_mem_nil⟩
  | ask mind question next ih =>
      rcases hdesk : desk question u with ⟨f' | reply, u'⟩
      · rw [run_ask_error hdesk] at h
        cases h
        rw [calls_ask_error hdesk]
        exact .inl ⟨[], question, rfl, fun c hc => absurd hc List.not_mem_nil⟩
      · rw [run_ask_ok hdesk] at h
        rw [calls_ask_ok hdesk]
        exact (ih reply (hown reply) h).cons question

/-- A question that fails is the last one, and its failure is what all comes to. -/
theorem run_of_failing {desk : Desk R α υ} {d : Dialogue R α μ ω} {u : υ} {question : Q}
    {f : Failure α} (h : (question, some f) ∈ d.calls desk u) :
    (d.run desk u).2 = .error f := by
  induction d generalizing u with
  | done mind result => exact absurd h List.not_mem_nil
  | ask mind first next ih =>
      rcases hdesk : desk first u with ⟨f' | reply, u'⟩
      · rw [calls_ask_error hdesk, List.mem_singleton] at h
        obtain ⟨-, hf⟩ := Prod.mk.inj h
        rw [run_ask_error hdesk, Option.some.inj hf]
      · rw [calls_ask_ok hdesk] at h
        rw [run_ask_ok hdesk]
        rcases List.mem_cons.mp h with heq | hrest
        · cases (Prod.mk.inj heq).2
        · exact ih reply hrest

end Dialogue

variable {α β κ : Type}

/-- A position that cannot be closed for the number of its orders. -/
def Failure.IsOrderCount (f : Failure α) : Prop :=
  ∃ got, f = .ofFault (.orderCount 1 got)

theorem Position.isOrderCount_of_closingOrder {p : Position α} {fault : Fault α}
    (h : p.closingOrder = .error fault) : (Failure.ofFault fault).IsOrderCount := by
  unfold closingOrder at h
  split at h
  · cases h
  · cases h
    exact ⟨_, rfl⟩

inductive Booking (α : Type)
  | opening (side : Side) (candle : Candle α)
  | closing (side : Side) (status : Status) (candle : Candle α)

abbrev Booking.Reply (_ : Booking α) : Type := α

def Budget.answer (budget : Budget α β) : Dialogue.Desk (Booking.Reply (α := α)) α β
  | .opening side candle, b => budget.bookOpen b side candle
  | .closing side status candle, b => budget.bookClose b side status candle

namespace Simulated

/-- A dialogue with the budget, with the ledger in mind. -/
abbrev Talk (α : Type) : Type := Dialogue (Booking.Reply (α := α)) α (List (Position α)) Unit

def closeTalk (candle : Candle α) (ledger : List (Position α)) : Talk α :=
  match ledger.getLast?.filter Position.isOpen with
  | none => .done ledger (.ok ())
  | some p => .ask ledger (.closing p.side p.status candle) fun _ =>
    match p.closingOrder with
    | .error f => .done ledger (.error (.ofFault f))
    | .ok order =>
      .done (ledger.dropLast ++ [p.close (fillClosing p order candle)]) (.ok ())

def appendTalk (side : Side) (candle : Candle α) (ledger : List (Position α)) : Talk α :=
  .ask ledger (.opening side candle) fun quantity =>
    .done (ledger ++ [newPosition ledger.length side quantity candle]) (.ok ())

def openTalk (side : Side) (candle : Candle α) (ledger : List (Position α)) : Talk α :=
  match ledger.getLast?.filter Position.isOpen with
  | none => appendTalk side candle ledger
  | some _ => (closeTalk candle ledger).bind fun ledger _ => appendTalk side candle ledger

def talk (side : Side) (action : Action) (candle : Candle α) (ledger : List (Position α)) :
    Talk α :=
  match action with
  | .openPosition => openTalk side candle ledger
  | .closePosition => closeTalk candle ledger

section OwnFailures

variable (candle : Candle α)

theorem ownFailures_closeTalk (ledger : List (Position α)) :
    (closeTalk candle ledger).OwnFailures Failure.IsOrderCount := by
  unfold closeTalk
  split
  · exact fun f hf => by cases hf
  · next p _ =>
    intro reply
    cases horder : p.closingOrder with
    | error fault =>
        intro f hf
        cases hf
        exact Position.isOrderCount_of_closingOrder horder
    | ok order => exact fun f hf => by cases hf

theorem ownFailures_appendTalk (side : Side) (ledger : List (Position α)) :
    (appendTalk side candle ledger).OwnFailures Failure.IsOrderCount :=
  fun _ f hf => by cases hf

theorem ownFailures_talk (side : Side) (action : Action) (ledger : List (Position α)) :
    (talk side action candle ledger).OwnFailures Failure.IsOrderCount := by
  cases action with
  | closePosition => exact ownFailures_closeTalk candle ledger
  | openPosition =>
      simp only [talk, openTalk]
      split
      · exact ownFailures_appendTalk candle side ledger
      · exact Dialogue.ownFailures_bind (ownFailures_closeTalk candle ledger)
          fun ledger _ => ownFailures_appendTalk candle side ledger

end OwnFailures

def Turn.outcome (t : Turn α β) : (β × List (Position α)) × Except (Failure α) Unit :=
  ((t.state.budget, t.state.ledger), t.result)

variable [Scalar α] (budget : Budget α β) (candle : Candle α) (s : Simulated α β)

theorem close_outcome :
    (close budget candle s).outcome = (closeTalk candle s.ledger).run budget.answer s.budget := by
  unfold close closeTalk current?
  cases s.ledger.getLast?.filter Position.isOpen with
  | none => rfl
  | some p =>
      simp only [Dialogue.run, Budget.answer]
      rcases budget.bookClose s.budget p.side p.status candle with ⟨f | quantity, b⟩
      · rfl
      · cases p.closingOrder with
        | error f => rfl
        | ok order => rfl

omit [Scalar α] in
theorem append_outcome (side : Side) :
    (append budget side candle s).outcome =
      (appendTalk side candle s.ledger).run budget.answer s.budget := by
  unfold append appendTalk
  simp only [Dialogue.run, Budget.answer]
  rcases budget.bookOpen s.budget side candle with ⟨f | quantity, b⟩
  · rfl
  · rfl

theorem openPosition_outcome (side : Side) :
    (openPosition budget side candle s).outcome =
      (openTalk side candle s.ledger).run budget.answer s.budget := by
  unfold openPosition openTalk
  rw [current?]
  cases s.ledger.getLast?.filter Position.isOpen with
  | none => exact append_outcome budget candle s side
  | some p =>
      simp only [Dialogue.run_bind, ← close_outcome budget candle s, Turn.outcome]
      cases (close budget candle s).result with
      | error f => rfl
      | ok _ => exact append_outcome budget candle (close budget candle s).state side

/-- The attempt of an advice is the dialogue for it. -/
theorem attempt_outcome (side : Side) (action : Action) :
    (attempt budget side action candle s).outcome =
      (talk side action candle s.ledger).run budget.answer s.budget := by
  cases action with
  | openPosition => exact openPosition_outcome budget candle s side
  | closePosition => exact close_outcome budget candle s

end Simulated

inductive Query (α : Type)
  | booking (booking : Booking α)
  | listing
  | newest
  | creation (new : NewPosition) (quantity : α)
  | ordering (new : NewOrder α)
  | closing (id : String)

def Query.Reply : Query α → Type
  | .booking _ => α
  | .listing => List (Position α)
  | .newest => Option (Position α)
  | .creation _ _ => Position α
  | .ordering _ => Order α
  | .closing _ => Option (Position α)

namespace Live

/-- A call to one of the two leaves the other as it is. -/
def atBudget {ω : Type} (call : β → Except (Failure α) ω × β) (u : β × κ) :
    Except (Failure α) ω × (β × κ) :=
  ((call u.1).1, ((call u.1).2, u.2))

def atExchange {ω : Type} (call : κ → Except (Failure α) ω × κ) (u : β × κ) :
    Except (Failure α) ω × (β × κ) :=
  ((call u.2).1, (u.1, (call u.2).2))

def answer (budget : Budget α β) (exchange : Exchange α κ) :
    Dialogue.Desk (Query.Reply (α := α)) α (β × κ)
  | .booking booking => atBudget (budget.answer booking)
  | .listing => atExchange exchange.list
  | .newest => atExchange exchange.newest
  | .creation new quantity => atExchange fun k => exchange.create k new quantity
  | .ordering new => atExchange fun k => exchange.order k new
  | .closing id => atExchange fun k => exchange.close k id

abbrev Talk (α : Type) : Type :=
  Dialogue (Query.Reply (α := α)) α (Option (Position α)) (Option (Position α))

def closeTrackedTalk (candle : Candle α) (p : Position α) (current : Option (Position α)) :
    Talk α :=
  .ask current (.booking (.closing p.side p.status candle)) fun _ =>
    match p.closingOrder with
    | .error f => .done current (.error (.ofFault f))
    | .ok closing => .ask current (.ordering ⟨p.id, closing.quantity, closing.side⟩) fun _ =>
      .ask current (.closing p.id) fun closed => .done none (.ok closed)

def closeCurrentTalk (candle : Candle α) (current : Option (Position α)) : Talk α :=
  match current with
  | none => .done none (.ok none)
  | some p =>
    if p.isOpen then closeTrackedTalk candle p (some p) else .done none (.ok none)

def closeTalk (candle : Candle α) (current : Option (Position α)) : Talk α :=
  match current with
  | some p => closeCurrentTalk candle (some p)
  | none => .ask none .newest fun newest =>
    closeCurrentTalk candle (Option.filter Position.isOpen newest)

def createTalk (side : Side) (candle : Candle α) (current : Option (Position α)) : Talk α :=
  .ask current (.booking (.opening side candle)) fun quantity =>
    .ask current (.creation ⟨candle.symbolId, side⟩ quantity) fun p => .done (some p) (.ok (some p))

def openTalk (side : Side) (candle : Candle α) (current : Option (Position α)) : Talk α :=
  match current with
  | none => createTalk side candle none
  | some p => (closeTalk candle (some p)).bind fun current _ => createTalk side candle current

def talk (side : Side) (action : Action) (candle : Candle α) (current : Option (Position α)) :
    Talk α :=
  match action with
  | .openPosition => openTalk side candle current
  | .closePosition => closeTalk candle current

def Turn.outcome {ω : Type} (t : Turn α β κ ω) :
    ((β × κ) × Option (Position α)) × Except (Failure α) ω :=
  (((t.state.budget, t.state.exchange), t.state.current), t.result)

section Outcomes

variable (budget : Budget α β) (exchange : Exchange α κ) (candle : Candle α) (s : Live α β κ)

theorem closeTracked_outcome (p : Position α) :
    (closeTracked budget exchange candle p s).outcome =
      (closeTrackedTalk candle p s.current).run (answer budget exchange)
        (s.budget, s.exchange) := by
  unfold closeTracked closeTrackedTalk
  simp only [Dialogue.run, answer, atBudget, Budget.answer]
  rcases budget.bookClose s.budget p.side p.status candle with ⟨f | quantity, b⟩
  · rfl
  · cases p.closingOrder with
    | error f => rfl
    | ok closing =>
        simp only [Dialogue.run, answer, atExchange]
        rcases exchange.order s.exchange ⟨p.id, closing.quantity, closing.side⟩ with ⟨f | o, k⟩
        · rfl
        · dsimp only
          rcases exchange.close k p.id with ⟨f | closed, k⟩
          · rfl
          · rfl

theorem closeCurrent_outcome :
    (closeCurrent budget exchange candle s).outcome =
      (closeCurrentTalk candle s.current).run (answer budget exchange)
        (s.budget, s.exchange) := by
  cases hcurrent : s.current with
  | none => simp only [closeCurrent, closeCurrentTalk, Turn.outcome, Dialogue.run, hcurrent]
  | some p =>
      by_cases hopen : p.isOpen = true
      · have htracked := closeTracked_outcome budget exchange candle s p
        rw [hcurrent] at htracked
        rw [closeCurrent_open hcurrent hopen, htracked, closeCurrentTalk, if_pos hopen]
      · simp only [closeCurrent, closeCurrentTalk, Turn.outcome, Dialogue.run, hcurrent,
          if_neg hopen]

theorem close_outcome :
    (close budget exchange candle s).outcome =
      (closeTalk candle s.current).run (answer budget exchange) (s.budget, s.exchange) := by
  cases hcurrent : s.current with
  | some p =>
      have hwithCopy := closeCurrent_outcome budget exchange candle s
      rw [hcurrent] at hwithCopy
      rw [close, hcurrent]
      exact hwithCopy
  | none =>
      rcases hcall : exchange.newest s.exchange with ⟨f | newest, k⟩
      · have hanswer : answer budget exchange .newest (s.budget, s.exchange) =
            (.error f, (s.budget, k)) := by
          simp only [answer, atExchange, hcall]
          rfl
        rw [close_unseen hcurrent hcall, closeTalk, Dialogue.run_ask_error hanswer, Turn.outcome,
          hcurrent]
      · have hanswer : answer budget exchange .newest (s.budget, s.exchange) =
            (.ok newest, (s.budget, k)) := by
          simp only [answer, atExchange, hcall]
          rfl
        rw [close_seen hcurrent hcall, closeTalk, Dialogue.run_ask_ok hanswer]
        exact closeCurrent_outcome budget exchange candle
          { s with exchange := k, current := newest.filter Position.isOpen }

theorem create_outcome (side : Side) :
    (create budget exchange side candle s).outcome =
      (createTalk side candle s.current).run (answer budget exchange)
        (s.budget, s.exchange) := by
  unfold create createTalk
  simp only [Dialogue.run, answer, atBudget, atExchange, Budget.answer]
  rcases budget.bookOpen s.budget side candle with ⟨f | quantity, b⟩
  · rfl
  · dsimp only
    rcases exchange.create s.exchange ⟨candle.symbolId, side⟩ quantity with ⟨f | p, k⟩
    · rfl
    · rfl

theorem openPosition_outcome (side : Side) :
    (openPosition budget exchange side candle s).outcome =
      (openTalk side candle s.current).run (answer budget exchange) (s.budget, s.exchange) := by
  have hclose := close_outcome budget exchange candle s
  unfold openPosition openTalk
  cases hcurrent : s.current with
  | none =>
      have hcreate := create_outcome budget exchange candle s side
      rw [hcurrent] at hcreate
      exact hcreate
  | some p =>
      rw [hcurrent] at hclose
      simp only [Dialogue.run_bind, ← hclose, Turn.outcome]
      cases (close budget exchange candle s).result with
      | error f => rfl
      | ok reply =>
          exact create_outcome budget exchange candle (close budget exchange candle s).state side

/-- The attempt of an advice is the dialogue for it. -/
theorem attempt_outcome (side : Side) (action : Action) :
    (attempt budget exchange side action candle s).outcome =
      (talk side action candle s.current).run (answer budget exchange)
        (s.budget, s.exchange) := by
  cases action with
  | openPosition => exact openPosition_outcome budget exchange candle s side
  | closePosition => exact close_outcome budget exchange candle s

end Outcomes

section OwnFailures

variable (candle : Candle α) (current : Option (Position α))

theorem ownFailures_closeCurrentTalk :
    (closeCurrentTalk candle current).OwnFailures Failure.IsOrderCount := by
  unfold closeCurrentTalk
  split
  · exact fun f hf => by cases hf
  · next p =>
    split
    · intro reply
      cases horder : p.closingOrder with
      | error fault =>
          intro f hf
          cases hf
          exact Position.isOrderCount_of_closingOrder horder
      | ok closing => exact fun _ _ f hf => by cases hf
    · exact fun f hf => by cases hf

theorem ownFailures_closeTalk :
    (closeTalk candle current).OwnFailures Failure.IsOrderCount := by
  cases current with
  | some p => exact ownFailures_closeCurrentTalk candle (some p)
  | none => exact fun newest => ownFailures_closeCurrentTalk candle _

theorem ownFailures_createTalk (side : Side) :
    (createTalk side candle current).OwnFailures Failure.IsOrderCount :=
  fun _ _ f hf => by cases hf

theorem ownFailures_talk (side : Side) (action : Action) :
    (talk side action candle current).OwnFailures Failure.IsOrderCount := by
  cases action with
  | closePosition => exact ownFailures_closeTalk candle current
  | openPosition =>
      cases current with
      | none => exact ownFailures_createTalk candle none side
      | some p =>
          exact Dialogue.ownFailures_bind (ownFailures_closeTalk candle (some p))
            fun current _ => ownFailures_createTalk candle current side

end OwnFailures

end Live

end Crossover

import Mathlib.Logic.Relation
import Mathlib.Order.RelClasses
import Crossover.Session.Run

/-!
# Runs of a session

`Session.Next` is one step in some interleaving. Here are the runs made of such steps: what a
run can come to (`Relation.ReflTransGen`), and what every run that goes on for as long as it can
must come to (`Inevitable`). The schedule that `Session.run` follows is one of the runs.
-/

namespace Crossover

/-- Every run from this state that goes on for as long as it can comes to the goal. -/
inductive Inevitable {σ : Type} (step : σ → σ → Prop) (goal : σ → Prop) : σ → Prop
  | here {s : σ} : goal s → Inevitable step goal s
  | later {s : σ} : (∃ s', step s s') → (∀ s', step s s' → Inevitable step goal s') →
      Inevitable step goal s

namespace Inevitable

variable {σ : Type} {step : σ → σ → Prop} {goal : σ → Prop}

/-- An invariant under which the state shrinks with each step, and there is a step, as long as
the goal is not reached. -/
theorem of_shrinking {β : Type} [LT β] [WellFoundedLT β] (inv : σ → Prop) (size : σ → β)
    (hgoes : ∀ s, inv s → ¬ goal s → ∃ s', step s s')
    (hkeeps : ∀ s s', inv s → step s s' → inv s')
    (hshrinks : ∀ s s', inv s → ¬ goal s → step s s' → size s' < size s) {s : σ} (hs : inv s) :
    Inevitable step goal s := by
  generalize hn : size s = n
  induction n using WellFoundedLT.induction generalizing s with
  | ind n ih =>
      by_cases hg : goal s
      · exact .here hg
      · refine .later (hgoes s hs hg) (fun s' hstep => ?_)
        have hless : size s' < n := hn ▸ hshrinks s s' hs hg hstep
        exact ih (size s') hless (hkeeps s s' hs hstep) rfl

/-- What is inevitable once something inevitable has happened. -/
theorem trans {goal' : σ → Prop} {s : σ} (h : Inevitable step goal s)
    (hthen : ∀ s, goal s → Inevitable step goal' s) : Inevitable step goal' s := by
  induction h with
  | here hgoal => exact hthen _ hgoal
  | later hgoes _ ih => exact .later hgoes ih

/-- What is inevitable comes with what holds all the way there. -/
theorem along {goal' : σ → Prop} (inv : σ → Prop) {s : σ} (h : Inevitable step goal s)
    (hs : inv s) (hkeeps : ∀ s s', inv s → ¬ goal' s → step s s' → inv s')
    (hgoal : ∀ s, inv s → goal s → goal' s) : Inevitable step goal' s := by
  induction h with
  | here hg => exact .here (hgoal _ hs hg)
  | @later s hgoes _ ih =>
      by_cases hdone : goal' s
      · exact .here hdone
      · exact .later hgoes fun s' hstep => ih s' hstep (hkeeps s s' hs hdone hstep)

end Inevitable

namespace Session

variable {α γ σ τ : Type} {S : Task α γ σ} {T : Task α γ τ}

abbrev Reaches (S : Task α γ σ) (T : Task α γ τ) : Session γ σ τ → Session γ σ τ → Prop :=
  Relation.ReflTransGen (Next S T)

/-- A step that changes something and is not the stop signal. -/
def Proceeds (S : Task α γ σ) (T : Task α γ τ) (w w' : Session γ σ τ) : Prop :=
  Next S T w w' ∧ w' ≠ w ∧ w'.signalled = w.signalled

/-- The moves the schedule chooses among are all moves, in another order. -/
theorem mem_moves_iff (turn : Turn) {w w' : Session γ σ τ} :
    w' ∈ moves S T w ↔
      w' ∈ (taskMoves S T turn w ++ (runnerMoves S T w).map (turn, ·)).map Prod.snd := by
  cases turn <;>
    simp only [moves, taskMoves, List.map_append, List.map_map, Function.comp_def, List.map_id',
      List.mem_append] <;>
    grind

theorem nextDue?_eq_some {stop : Stop γ σ τ} {w : Session γ σ τ} {due : Nat}
    (h : nextDue? S T stop w = some due) :
    w.line.now < due ∧
      ∀ d ∈ S.dues w.line.sender ++ T.dues w.line.receiver, w.line.now < d → due ≤ d := by
  obtain ⟨hmem, hleast⟩ := List.min?_eq_some_iff.mp h
  refine ⟨by simpa using (List.mem_filter.mp hmem).2, fun d hd hlate => hleast d ?_⟩
  exact List.mem_filter.mpr ⟨List.mem_append_left _ hd, by simpa using hlate⟩

theorem next_of_rest? {stop : Stop γ σ τ} {turn turn' : Turn} {w w' : Session γ σ τ}
    (hm : moves S T w = []) (h : rest? S T stop turn w = some (turn', w')) : Next S T w w' := by
  unfold rest? at h
  split at h
  · obtain ⟨-, rfl⟩ := Prod.mk.injEq .. ▸ Option.some.inj h
    exact .fire
  · obtain ⟨due, hdue, heq⟩ := Option.map_eq_some_iff.mp h
    obtain ⟨-, rfl⟩ := Prod.mk.injEq .. ▸ heq
    obtain ⟨hlate, hleast⟩ := nextDue?_eq_some hdue
    exact .wait hm hlate hleast

/-- The schedule in use is one of the interleavings. -/
theorem next_of_step {stop : Stop γ σ τ} {turn turn' : Turn} {w w' : Session γ σ τ}
    (h : step? S T stop turn w = some (turn', w')) : Next S T w w' := by
  unfold step? at h
  split at h
  · cases h
  · split at h
    · cases h
      exact .fire
    · split at h
      · next hcons =>
        cases h
        exact .move ((mem_moves_iff turn).mpr (by rw [hcons]; exact List.mem_cons_self))
      · next hnil =>
        refine next_of_rest? (List.eq_nil_iff_forall_not_mem.mpr fun v hv => ?_) h
        rw [mem_moves_iff turn, hnil] at hv
        exact List.not_mem_nil hv

theorem reaches_runFrom (stop : Stop γ σ τ) (fuel : Nat) (turn : Turn) (w : Session γ σ τ) :
    Reaches S T w (runFrom S T stop fuel turn w) := by
  induction fuel generalizing turn w with
  | zero => exact .refl
  | succ fuel ih =>
      unfold runFrom
      split
      · exact .refl
      · next hstep => exact .head (next_of_step hstep) (ih _ _)

end Session

namespace Strategy

variable {α γ ρ σ τ : Type}

/-- The reports with which a strategy can come back, in some interleaving: a session has run
with the rule and is over, or there was no rule to run with. -/
inductive Reports (S : Task α γ σ) (T : Task α γ τ) (ruleOf : τ → ρ) (feed : σ)
    (trader : ρ → τ) : Strategy ρ → Report α ρ γ σ τ → Prop
  | refused {s : Strategy ρ} : s.rule = none →
      Reports S T ruleOf feed trader s ⟨s, none, .error (.ofFault .ruleUnavailable)⟩
  | ran {s : Strategy ρ} {rule : ρ} {w : Session γ σ τ} {report : Report α ρ γ σ τ} :
      s.rule = some rule → Session.Reaches S T (.start feed (trader rule)) w →
      conclude S T ruleOf w s.lent = some report → Reports S T ruleOf feed trader s report

theorem reports_of_run {S : Task α γ σ} {T : Task α γ τ} {ruleOf : τ → ρ} {stop : Stop γ σ τ}
    {fuel : Nat} {feed : σ} {trader : ρ → τ} {s : Strategy ρ} {report : Report α ρ γ σ τ}
    (h : run S T ruleOf stop fuel feed trader s = some report) :
    Reports S T ruleOf feed trader s report := by
  unfold run at h
  split at h
  · next hrule =>
    cases h
    exact .refused hrule
  · next rule hrule => exact .ran hrule (Session.reaches_runFrom ..) h

end Strategy

end Crossover

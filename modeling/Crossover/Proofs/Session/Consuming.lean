import Mathlib.Data.Prod.Lex
import Crossover.Proofs.Session.Passing

/-!
# Taking from a line

A receiver that comes back to the line keeps its sender going: between two items it turns to the
clock only so often, so that whatever the sender has to do comes about, or time passes. A
consumer is such a receiver: it takes the items at a pace of its own, stops the sender at one
time and hangs up at another, or does neither.
-/

namespace Crossover

variable {α γ σ τ : Type}

/-- As long as it holds the line, the receiver waits for an item or for a time; the rank falls
each time it turns to the clock. -/
structure Task.ComesBack (T : Task α γ τ) (rank : τ → Nat) : Prop where
  waits : ∀ r, T.holdsLine r = true →
    (∃ got ended, .onReceive got ended ∈ T.branches r) ∨ ∃ d, d ∈ T.dues r
  tires : ∀ r due next, .onTime due next ∈ T.branches r → ∀ now, rank (next now) < rank r

namespace Line

variable {S : Task α γ σ} {T : Task α γ τ} {rank : τ → Nat} {start w w' : Line γ σ τ}
  {stop : Bool}

def put (w w' : Line γ σ τ) : List γ :=
  if w.slot.isNone then w'.slot.toList else []

/-- A run, with all that was put on the line on the way. -/
inductive Delivers (S : Task α γ σ) (T : Task α γ τ) (start : Line γ σ τ) :
    List γ → Line γ σ τ → Prop
  | start : Delivers S T start [] start
  | step {out : List γ} {w w' : Line γ σ τ} : Delivers S T start out w → Next S T w w' →
      Delivers S T start (out ++ put w w') w'

theorem delivers_of_reaches (h : Reaches S T start w) : ∃ out, Delivers S T start out w := by
  induction h with
  | refl => exact ⟨[], .start⟩
  | tail _ hnext ih =>
      obtain ⟨out, hout⟩ := ih
      exact ⟨_, hout.step hnext⟩

theorem put_of_slot_eq (h : w'.slot = w.slot) : put w w' = [] := by
  rw [put, h]
  cases w.slot <;> rfl

theorem put_sender (s : σ) : put w { w with sender := s } = [] := put_of_slot_eq rfl

theorem put_wait (due : Nat) : put w { w with now := due } = [] := put_of_slot_eq rfl

theorem put_sent {item : γ} (hslot : w.slot = none) (s : σ) :
    put w { w with slot := some item, sender := s } = [item] := by
  rw [put, hslot]
  rfl

theorem put_of_receiverMoves (h : w' ∈ w.receiverMoves S T stop) : put w w' = [] := by
  obtain ⟨b, -, hmove⟩ := List.mem_filterMap.mp h
  cases hslot : w.slot with
  | some item => rw [put, hslot]; rfl
  | none =>
      refine put_of_slot_eq ?_
      cases b <;> grind [receiverMove?]

theorem slot_of_senderMoves (h : w' ∈ w.senderMoves S T stop) :
    w'.slot.toList = w.slot.toList ++ put w w' := by
  obtain ⟨b, hb, hmove⟩ := List.mem_filterMap.mp h
  have hsame : w'.slot = w.slot → w'.slot.toList = w.slot.toList ++ put w w' := fun hslot => by
    rw [put_of_slot_eq hslot, List.append_nil, hslot]
  cases b with
  | onSend item sent refused =>
      rcases onSend_cases hmove with ⟨-, rfl⟩ | ⟨hslot, rfl⟩
      · exact hsame rfl
      · rw [put_sent hslot, hslot]
        rfl
  | onStop next =>
      obtain ⟨-, heq⟩ := Option.ite_none_right_eq_some.mp hmove
      cases heq
      exact hsame rfl
  | onReceive got ended => cases hmove
  | onTime due next =>
      obtain ⟨-, heq⟩ := Option.ite_none_right_eq_some.mp hmove
      cases heq
      exact hsame rfl

/-- To a receiver that is gone nothing is put on the line. -/
theorem put_of_gone (hT : T.holdsLine w.receiver = false) (h : Next S T w w') :
    put w w' = [] := by
  rcases next_cases h with hs | hr | ⟨due, -, rfl, -⟩
  · obtain ⟨b, hb, hmove⟩ := List.mem_filterMap.mp hs
    refine put_of_slot_eq ?_
    rw [hT] at hmove
    cases b <;> grind [senderMove?]
  · exact put_of_receiverMoves hr
  · exact put_wait due

def load (w : Line γ σ τ) : Nat := w.slot.toList.length

/-- The receiver takes the item, or turns to the clock. -/
theorem load_or_rank (hT : T.ComesBack rank) (hS : S.holdsLine w.sender = true)
    (h : w' ∈ w.receiverMoves S T false) :
    w'.load < w.load ∨ w'.load = w.load ∧ rank w'.receiver < rank w.receiver := by
  obtain ⟨b, hb, hmove⟩ := List.mem_filterMap.mp h
  cases b with
  | onStop next => cases hmove
  | onSend item sent refused => cases hmove
  | onReceive got ended =>
      cases hslot : w.slot with
      | some item =>
          simp only [receiverMove?, hslot, Option.some.injEq] at hmove
          subst hmove
          exact .inl (by simp [load, hslot])
      | none => simp [receiverMove?, hslot, hS] at hmove
  | onTime due next =>
      obtain ⟨-, heq⟩ := Option.ite_none_right_eq_some.mp hmove
      cases heq
      exact .inr ⟨rfl, hT.tires _ _ _ hb w.now⟩

/-- Somebody moves or waits for a time, where the receiver comes back to an item on the line. -/
theorem dues_of_loaded (hT : T.ComesBack rank) (hholds : T.holdsLine w.receiver = true)
    {item : γ} (hslot : w.slot = some item) (hm : moves S T w = []) : ∃ d, d ∈ dues S T w := by
  rcases hT.waits w.receiver hholds with ⟨got, ended, hb⟩ | ⟨d, hd⟩
  · have hmove : { w with slot := none, receiver := got item w.now } ∈
        w.receiverMoves S T (S.stopsOther w.sender) :=
      List.mem_filterMap.mpr ⟨_, hb, by simp [receiverMove?, hslot]⟩
    exact absurd hm (moves_of_receiver rfl hmove)
  · exact ⟨d, List.mem_append_right _ hd⟩

/-- What comes about on a line with a receiver that comes back. The sender has less work left
after each of its moves; before the goal it holds the line and stops nobody, and it neither lets
time pass nor gets more work by it while somebody can move. -/
theorem inevitable_of_work {β : Type} [LT β] [WellFoundedLT β] {goal : Line γ σ τ → Prop}
    (hT : T.ComesBack rank) (inv : Line γ σ τ → Prop) (work : Nat → σ → β)
    (hkeeps : ∀ w w', inv w → Next S T w w' → inv w')
    (hholds : ∀ w, inv w → ¬ goal w → S.holdsLine w.sender = true)
    (hsilent : ∀ s, S.stopsOther s = false)
    (hgoes : ∀ w, inv w → ¬ goal w → moves S T w = [] → ∃ d, d ∈ dues S T w)
    (hsender : ∀ w w', inv w → ¬ goal w →
      w' ∈ w.senderMoves S T (T.stopsOther w.receiver) →
      work w'.now w'.sender < work w.now w.sender)
    (hwait : ∀ w due, inv w → ¬ goal w → moves S T w = [] →
      work due w.sender = work w.now w.sender) (hw : inv w) : Inevitable (Next S T) goal w := by
  refine .of_shrinking inv (fun w => toLex (work w.now w.sender,
    toLex (w.load, toGo S T (fun w => rank w.receiver) w))) ?_ hkeeps ?_ hw
  · intro w hinv hgoal
    exact exists_next (hgoes w hinv hgoal)
  · intro w w' hinv hgoal hnext
    simp only [Prod.Lex.toLex_lt_toLex]
    rcases next_cases hnext with hs | hr | ⟨due, hm, rfl, hmem, -, -⟩
    · exact .inl (hsender w w' hinv hgoal hs)
    · right
      refine ⟨by rw [now_of_receiverMoves hr, sender_of_receiverMoves hr], ?_⟩
      rw [hsilent] at hr
      rcases load_or_rank hT (hholds w hinv hgoal) hr with hless | ⟨hsame, hless⟩
      · exact .inl hless
      · exact .inr ⟨hsame, toGo_of_move hless⟩
    · exact .inr ⟨hwait w due hinv hgoal hm, .inr ⟨rfl, toGo_of_wait hm hmem (Nat.le_refl _)⟩⟩

end Line

/-- A receiver at a pace of its own: what it has taken so far, and when, says how long it rests
before the next item. -/
structure Consumer (γ : Type) where
  rest : List (Nat × γ) → Nat
  stopping : Option Nat
  hangingUp : Option Nat

structure Consuming (γ : Type) where
  taken : List (Nat × γ)
  restsUntil : Option Nat
  stopped : Bool
  hungUp : Bool

/-- The consumer has stopped the sender, or hung up. -/
def Consuming.Parted (s : Consuming γ) : Prop := s.stopped = true ∨ s.hungUp = true

namespace Consumer

variable (c : Consumer γ)

def begin : Consuming γ := ⟨[], some (c.rest []), false, false⟩

def take (item : γ) (now : Nat) (s : Consuming γ) : Consuming γ :=
  { s with
    taken := s.taken ++ [(now, item)]
    restsUntil := some (now + c.rest (s.taken ++ [(now, item)])) }

/-- The end of the line changes nothing. -/
def attending (s : Consuming γ) : List (Branch γ (Consuming γ)) :=
  match s.restsUntil with
  | some due => [.onTime due fun _ => { s with restsUntil := none }]
  | none => [.onReceive (fun item now => c.take item now s) fun _ => s]

def hangingUpAt (s : Consuming γ) : List (Branch γ (Consuming γ)) :=
  c.hangingUp.toList.map fun due => .onTime due fun _ => { s with hungUp := true }

def stoppingAt (s : Consuming γ) : List (Branch γ (Consuming γ)) :=
  c.stopping.toList.map fun due => .onTime due fun _ => { s with stopped := true }

/-- Once it has hung up a consumer takes nothing, but it may still stop the sender. -/
def task (α : Type) : Task α γ (Consuming γ) where
  branches s :=
    (if s.hungUp then [] else c.attending s ++ c.hangingUpAt s) ++
      if s.stopped then [] else c.stoppingAt s
  ending s := if s.hungUp then some (.returned (.ok ())) else none
  holdsLine s := !s.hungUp
  stopsOther s := s.stopped

def rank (s : Consuming γ) : Nat :=
  (if s.restsUntil.isSome then 1 else 0) + (if s.hungUp then 0 else 1) +
    if s.stopped then 0 else 1

variable {c} {S : Task α γ σ} {s : Consuming γ} {b : Branch γ (Consuming γ)}
  {w w' : Line γ σ (Consuming γ)}

/-- All branches of a consumer. -/
inductive Offers (c : Consumer γ) (s : Consuming γ) : Branch γ (Consuming γ) → Prop
  | rise {due : Nat} : s.restsUntil = some due →
      Offers c s (.onTime due fun _ => { s with restsUntil := none })
  | receive : s.hungUp = false →
      Offers c s (.onReceive (fun item now => c.take item now s) fun _ => s)
  | hangUp {due : Nat} : c.hangingUp = some due → s.hungUp = false →
      Offers c s (.onTime due fun _ => { s with hungUp := true })
  | stop {due : Nat} : c.stopping = some due → s.stopped = false →
      Offers c s (.onTime due fun _ => { s with stopped := true })

theorem offers_of_mem (h : b ∈ (c.task α).branches s) : Offers c s b := by
  rcases List.mem_append.mp h with htakes | hstops
  · by_cases hhung : s.hungUp = true
    · rw [if_pos hhung] at htakes
      exact absurd htakes List.not_mem_nil
    · rw [if_neg hhung] at htakes
      have hon : s.hungUp = false := Bool.eq_false_iff.mpr hhung
      rcases List.mem_append.mp htakes with hattends | hhangs
      · cases hrest : s.restsUntil with
        | some due =>
            rw [attending, hrest, List.mem_singleton] at hattends
            rw [hattends]
            exact .rise hrest
        | none =>
            rw [attending, hrest, List.mem_singleton] at hattends
            rw [hattends]
            exact .receive hon
      · obtain ⟨due, hdue, rfl⟩ := List.mem_map.mp hhangs
        exact .hangUp (Option.mem_toList.mp hdue) hon
  · by_cases hstopped : s.stopped = true
    · rw [if_pos hstopped] at hstops
      exact absurd hstops List.not_mem_nil
    · rw [if_neg hstopped] at hstops
      obtain ⟨due, hdue, rfl⟩ := List.mem_map.mp hstops
      exact .stop (Option.mem_toList.mp hdue) (Bool.eq_false_iff.mpr hstopped)

theorem rise_mem_branches {due : Nat} (hon : s.hungUp = false) (hrest : s.restsUntil = some due) :
    .onTime due (fun _ => { s with restsUntil := none }) ∈ (c.task α).branches s := by
  simp [task, attending, hon, hrest]

theorem receive_mem_branches (hon : s.hungUp = false) (hrest : s.restsUntil = none) :
    .onReceive (fun item now => c.take item now s) (fun _ => s) ∈ (c.task α).branches s := by
  simp [task, attending, hon, hrest]

/-- A consumer of whatever pace comes back to the line. -/
theorem comesBack (c : Consumer γ) (α : Type) : (c.task α).ComesBack rank where
  waits s hholds := by
    have hon : s.hungUp = false := by simpa [task] using hholds
    cases hrest : s.restsUntil with
    | some due => exact .inr ⟨due, Task.mem_dues_iff.mpr ⟨_, rise_mem_branches hon hrest⟩⟩
    | none => exact .inl ⟨_, _, receive_mem_branches hon hrest⟩
  tires s due next hb now := by
    cases offers_of_mem hb with
    | rise hrest => simp [rank, hrest]
    | hangUp _ hhung => simp [rank, hhung]
    | stop _ hstopped => simp [rank, hstopped]

/-- What a consumer can come to in one step. -/
inductive Goes (c : Consumer γ) (w : Line γ σ (Consuming γ)) : Line γ σ (Consuming γ) → Prop
  | take {item : γ} : w.slot = some item → w.receiver.hungUp = false →
      Goes c w { w with slot := none, receiver := c.take item w.now w.receiver }
  | idle : Goes c w w
  | rise : Goes c w { w with receiver := { w.receiver with restsUntil := none } }
  | hangUp : c.hangingUp ≠ none →
      Goes c w { w with receiver := { w.receiver with hungUp := true } }
  | stop : c.stopping ≠ none →
      Goes c w { w with receiver := { w.receiver with stopped := true } }

theorem goes_of_receiverMoves {stop : Bool} (h : w' ∈ w.receiverMoves S (c.task α) stop) :
    Goes c w w' := by
  obtain ⟨b, hb, hmove⟩ := List.mem_filterMap.mp h
  cases offers_of_mem hb with
  | rise _ =>
      obtain ⟨-, heq⟩ := Option.ite_none_right_eq_some.mp hmove
      cases heq
      exact .rise
  | receive hon =>
      cases hslot : w.slot with
      | some item =>
          simp only [Line.receiverMove?, hslot, Option.some.injEq] at hmove
          rw [← hmove]
          exact .take hslot hon
      | none =>
          simp only [Line.receiverMove?, hslot, Option.ite_none_left_eq_some] at hmove
          obtain ⟨-, heq⟩ := hmove
          cases heq
          rw [← hslot]
          exact .idle
  | hangUp hdue _ =>
      obtain ⟨-, heq⟩ := Option.ite_none_right_eq_some.mp hmove
      cases heq
      exact .hangUp (by rw [hdue]; exact Option.some_ne_none _)
  | stop hdue _ =>
      obtain ⟨-, heq⟩ := Option.ite_none_right_eq_some.mp hmove
      cases heq
      exact .stop (by rw [hdue]; exact Option.some_ne_none _)

theorem goes_or_same (h : Line.Next S (c.task α) w w') :
    Goes c w w' ∨ w'.receiver = w.receiver := by
  rcases Line.next_cases h with hs | hr | ⟨due, -, rfl, -⟩
  · exact .inr (Line.receiver_of_senderMoves hs)
  · exact .inl (goes_of_receiverMoves hr)
  · exact .inr rfl

/-- A stop is for good, and so is hanging up. -/
theorem stopped_of_next (h : Line.Next S (c.task α) w w') (hstopped : w.receiver.stopped = true) :
    w'.receiver.stopped = true := by
  rcases goes_or_same h with hgoes | hsame
  · cases hgoes with
    | stop _ => rfl
    | _ => exact hstopped
  · rw [hsame]
    exact hstopped

theorem hungUp_of_next (h : Line.Next S (c.task α) w w') (hhung : w.receiver.hungUp = true) :
    w'.receiver.hungUp = true := by
  rcases goes_or_same h with hgoes | hsame
  · cases hgoes with
    | hangUp _ => rfl
    | _ => exact hhung
  · rw [hsame]
    exact hhung

theorem stopped_of_reaches (h : Line.Reaches S (c.task α) w w')
    (hstopped : w.receiver.stopped = true) : w'.receiver.stopped = true := by
  induction h with
  | refl => exact hstopped
  | tail _ hnext ih => exact stopped_of_next hnext ih

theorem hungUp_of_reaches (h : Line.Reaches S (c.task α) w w')
    (hhung : w.receiver.hungUp = true) : w'.receiver.hungUp = true := by
  induction h with
  | refl => exact hhung
  | tail _ hnext ih => exact hungUp_of_next hnext ih

theorem parted_of_next (h : Line.Next S (c.task α) w w') (hparted : w.receiver.Parted) :
    w'.receiver.Parted :=
  hparted.imp (stopped_of_next h) (hungUp_of_next h)

/-- A consumer that is not to stop the sender, nor to hang up, does neither. -/
theorem stays_of_reaches {sender : σ} (hstop : c.stopping = none) (hhang : c.hangingUp = none)
    (h : Line.Reaches S (c.task α) (.start sender c.begin) w) :
    w.receiver.stopped = false ∧ w.receiver.hungUp = false := by
  induction h with
  | refl => exact ⟨rfl, rfl⟩
  | tail _ hnext ih =>
      rcases goes_or_same hnext with hgoes | hsame
      · cases hgoes with
        | hangUp hset => exact absurd hhang hset
        | stop hset => exact absurd hstop hset
        | _ => exact ih
      · rw [hsame]
        exact ih

/-- What was put on the line was taken, or is still there. -/
theorem taken_of_delivers {sender : σ} {out : List γ}
    (h : Line.Delivers S (c.task α) (.start sender c.begin) out w) :
    w.receiver.taken.map Prod.snd ++ w.slot.toList = out := by
  induction h with
  | start => rfl
  | @step out w w' _ hnext ih =>
      rcases Line.next_cases hnext with hs | hr | ⟨due, -, rfl, -⟩
      · rw [Line.receiver_of_senderMoves hs, Line.slot_of_senderMoves hs, ← List.append_assoc, ih]
      · rw [Line.put_of_receiverMoves hr, List.append_nil, ← ih]
        cases goes_of_receiverMoves hr with
        | take hslot _ => simp [take, hslot]
        | _ => rfl
      · rw [Line.put_wait, List.append_nil, ← ih]

end Consumer

end Crossover

import Crossover.Proofs.Session.Inevitable
import Crossover.Proofs.Session.Watching
import Crossover.Session.Line

/-!
# Runs of a line

`Line.Next` is one step of a line in some interleaving: a move of one of its two tasks, or, when
neither can move, the passing of time up to the next moment that one of them waits for. Here the
steps are listed once, and what the receiver comes to is followed along all runs: it leaves,
whatever the interleaving, and the moment it leaves is a step of the run.
-/

namespace Crossover

theorem Task.mem_dues_iff {α γ σ : Type} {t : Task α γ σ} {s : σ} {d : Nat} :
    d ∈ t.dues s ↔ ∃ next, .onTime d next ∈ t.branches s := by
  constructor
  · intro hd
    obtain ⟨b, hb, hdue⟩ := List.mem_filterMap.mp hd
    cases b with
    | onTime due next =>
        cases hdue
        exact ⟨next, hb⟩
    | _ => cases hdue
  · rintro ⟨next, hb⟩
    exact List.mem_filterMap.mpr ⟨_, hb, rfl⟩

namespace Line

variable {α γ σ τ : Type} {S : Task α γ σ} {T : Task α γ τ} {w w' : Line γ σ τ}

abbrev Reaches (S : Task α γ σ) (T : Task α γ τ) : Line γ σ τ → Line γ σ τ → Prop :=
  Relation.ReflTransGen (Next S T)

theorem moves_of_sender {stop : Bool} (hstop : T.stopsOther w.receiver = stop)
    (h : w' ∈ w.senderMoves S T stop) : moves S T w ≠ [] := by
  subst hstop
  exact List.ne_nil_of_mem (List.mem_append_right _ h)

theorem moves_of_receiver {stop : Bool} (hstop : S.stopsOther w.sender = stop)
    (h : w' ∈ w.receiverMoves S T stop) : moves S T w ≠ [] := by
  subst hstop
  exact List.ne_nil_of_mem (List.mem_append_left _ h)

theorem moves_cases (h : w' ∈ moves S T w) :
    w' ∈ w.senderMoves S T (T.stopsOther w.receiver) ∨
      w' ∈ w.receiverMoves S T (S.stopsOther w.sender) :=
  (List.mem_append.mp h).symm

/-- An item is refused when the receiver has let go of the line, or it goes into the empty
slot. -/
theorem onSend_cases {receiverHolds stop : Bool} {item : γ} {sent refused : Nat → σ}
    (h : w.senderMove? receiverHolds stop (.onSend item sent refused) = some w') :
    (receiverHolds = false ∧ w' = { w with sender := refused w.now }) ∨
      (w.slot = none ∧ w' = { w with slot := some item, sender := sent w.now }) := by
  cases receiverHolds with
  | false => exact .inl ⟨rfl, (Option.some.inj h).symm⟩
  | true =>
      obtain ⟨hslot, heq⟩ := Option.ite_none_right_eq_some.mp h
      exact .inr ⟨Option.isNone_iff_eq_none.mp hslot, (Option.some.inj heq).symm⟩

theorem sent_mem_senderMoves {stop : Bool} {item : γ} {sent refused : Nat → σ}
    (hb : .onSend item sent refused ∈ S.branches w.sender)
    (hT : T.holdsLine w.receiver = true) (hslot : w.slot = none) :
    { w with slot := some item, sender := sent w.now } ∈ w.senderMoves S T stop :=
  List.mem_filterMap.mpr ⟨_, hb, by simp [senderMove?, hT, hslot]⟩

/-- A sender with an item can move where the slot is empty or the receiver is gone: the item goes
in, or it is refused. -/
theorem moves_of_onSend {item : γ} {sent refused : Nat → σ}
    (hb : .onSend item sent refused ∈ S.branches w.sender)
    (hfree : w.slot = none ∨ T.holdsLine w.receiver = false) : moves S T w ≠ [] := by
  cases hT : T.holdsLine w.receiver with
  | true =>
      rcases hfree with hslot | hgone
      · exact moves_of_sender rfl (sent_mem_senderMoves hb hT hslot)
      · rw [hT] at hgone
        cases hgone
  | false =>
      have hmove : { w with sender := refused w.now } ∈
          w.senderMoves S T (T.stopsOther w.receiver) :=
        List.mem_filterMap.mpr ⟨_, hb, by simp [senderMove?, hT]⟩
      exact moves_of_sender rfl hmove

def dues (S : Task α γ σ) (T : Task α γ τ) (w : Line γ σ τ) : List Nat :=
  S.dues w.sender ++ T.dues w.receiver

/-- Where nobody can move, all times that are waited for are still to come. -/
theorem now_lt_of_no_moves (hm : moves S T w = []) {d : Nat} (hd : d ∈ dues S T w) :
    w.now < d := by
  refine Nat.lt_of_not_le fun hlate => ?_
  rcases List.mem_append.mp hd with hd | hd
  · obtain ⟨next, hb⟩ := Task.mem_dues_iff.mp hd
    have hmove : { w with sender := next w.now } ∈
        w.senderMoves S T (T.stopsOther w.receiver) :=
      List.mem_filterMap.mpr ⟨_, hb, if_pos hlate⟩
    exact moves_of_sender rfl hmove hm
  · obtain ⟨next, hb⟩ := Task.mem_dues_iff.mp hd
    have hmove : { w with receiver := next w.now } ∈
        w.receiverMoves S T (S.stopsOther w.sender) :=
      List.mem_filterMap.mpr ⟨_, hb, if_pos hlate⟩
    exact moves_of_receiver rfl hmove hm

theorem nextDue?_eq_some {due : Nat} (h : nextDue? S T w = some due) :
    due ∈ dues S T w ∧ w.now < due ∧ ∀ d ∈ dues S T w, w.now < d → due ≤ d := by
  obtain ⟨hmem, hleast⟩ := List.min?_eq_some_iff.mp h
  obtain ⟨hdue, hlate⟩ := List.mem_filter.mp hmem
  refine ⟨hdue, by simpa using hlate, fun d hd hlater => hleast d ?_⟩
  exact List.mem_filter.mpr ⟨hd, by simpa using hlater⟩

/-- A step is a move of the sender or of the receiver, or time passes to the first of the
times that are waited for, when neither can move. -/
theorem next_cases (h : Next S T w w') :
    w' ∈ w.senderMoves S T (T.stopsOther w.receiver) ∨
      w' ∈ w.receiverMoves S T (S.stopsOther w.sender) ∨
      ∃ due, moves S T w = [] ∧ w' = { w with now := due } ∧ due ∈ dues S T w ∧ w.now < due ∧
        ∀ d ∈ dues S T w, due ≤ d := by
  cases h with
  | move hmove => exact (moves_cases hmove).imp_right .inl
  | wait hm hnext =>
      obtain ⟨hdue, hlate, hleast⟩ := nextDue?_eq_some hnext
      exact .inr (.inr ⟨_, hm, rfl, hdue, hlate, fun d hd =>
        hleast d hd (now_lt_of_no_moves hm hd)⟩)

/-- Where somebody can move or waits for a time, the run goes on. -/
theorem exists_next (h : moves S T w = [] → ∃ d, d ∈ dues S T w) : ∃ w', Next S T w w' := by
  by_cases hm : moves S T w = []
  · obtain ⟨d, hd⟩ := h hm
    cases hnext : nextDue? S T w with
    | some due => exact ⟨_, .wait hm hnext⟩
    | none =>
        have hnil := List.min?_eq_none_iff.mp hnext
        have hmem : d ∈ (dues S T w).filter (w.now < ·) :=
          List.mem_filter.mpr ⟨hd, decide_eq_true (now_lt_of_no_moves hm hd)⟩
        rw [dues, hnil] at hmem
        exact absurd hmem List.not_mem_nil
  · obtain ⟨w', hmove⟩ := List.exists_mem_of_ne_nil _ hm
    exact ⟨w', .move hmove⟩

/-- The first moves, taken one after the other, are one of the interleavings. -/
theorem reaches_runUntil (isOver : Line γ σ τ → Bool) (horizon : Option Nat) (fuel : Nat)
    (w : Line γ σ τ) : Reaches S T w (runUntil S T isOver horizon fuel w) := by
  induction fuel generalizing w with
  | zero => exact .refl
  | succ fuel ih =>
      unfold runUntil
      split
      · exact .refl
      · split
        · exact .refl
        · next hstep => exact .head (next_of_step? S T hstep) (ih _)

theorem now_of_receiverMoves {stop : Bool} (h : w' ∈ w.receiverMoves S T stop) :
    w'.now = w.now := by
  obtain ⟨b, -, hmove⟩ := List.mem_filterMap.mp h
  cases b <;> grind [receiverMove?]

/-- A receiver that has ended stays as it is. -/
theorem next_receiver (hT : T.Settles) (hended : T.hasEnded w.receiver = true)
    (h : Next S T w w') : w'.receiver = w.receiver := by
  rcases next_cases h with hsender | hreceiver | ⟨due, -, rfl, -⟩
  · exact receiver_of_senderMoves hsender
  · rw [receiverMoves_of_ended hT hended] at hreceiver
    exact absurd hreceiver List.not_mem_nil
  · rfl

/-- So does a sender. -/
theorem next_sender (hS : S.Settles) (hended : S.hasEnded w.sender = true)
    (h : Next S T w w') : w'.sender = w.sender := by
  rcases next_cases h with hsender | hreceiver | ⟨due, -, rfl, -⟩
  · rw [senderMoves_of_ended hS hended] at hsender
    exact absurd hsender List.not_mem_nil
  · exact sender_of_receiverMoves hreceiver
  · rfl

/-- In every run from this state the receiver leaves, and it leaves in such a way: at that time,
with that ending, and in that state. -/
structure Leaves (S : Task α γ σ) (T : Task α γ τ) (start : Line γ σ τ)
    (how : Nat → Ending α → τ → Prop) : Prop where
  so : ∀ w w' e, Reaches S T start w → Next S T w w' → T.ending w.receiver = none →
    T.ending w'.receiver = some e → how w'.now e w'.receiver
  comes : ∀ w, Reaches S T start w →
    Inevitable (Next S T) (fun w' => T.hasEnded w'.receiver = true) w

theorem Leaves.mono {start : Line γ σ τ} {how how' : Nat → Ending α → τ → Prop}
    (h : Leaves S T start how) (himp : ∀ now e t, how now e t → how' now e t) :
    Leaves S T start how' :=
  ⟨fun w w' e hreach hnext hpost hended => himp _ _ _ (h.so w w' e hreach hnext hpost hended),
    h.comes⟩

theorem hasEnded_of_ending {t : Task α γ τ} {s : τ} {e : Ending α} (h : t.ending s = some e) :
    t.hasEnded s = true := by
  rw [Task.hasEnded, h]
  rfl

/-- The work that is left, counted twice, and one more while all times waited for are still to
come: so the passing of time counts too. -/
def toGo (S : Task α γ σ) (T : Task α γ τ) (work : Line γ σ τ → Nat) (w : Line γ σ τ) : Nat :=
  2 * work w + if (dues S T w).all (w.now < ·) then 1 else 0

theorem toGo_of_move {work : Line γ σ τ → Nat} (h : work w' < work w) :
    toGo S T work w' < toGo S T work w := by
  unfold toGo
  split <;> split <;> omega

theorem toGo_of_wait {work : Line γ σ τ → Nat} {due : Nat} (hm : moves S T w = [])
    (hdue : due ∈ dues S T w) (h : work { w with now := due } ≤ work w) :
    toGo S T work { w with now := due } < toGo S T work w := by
  have hbefore : (dues S T w).all (w.now < ·) = true :=
    List.all_eq_true.mpr fun d hd => decide_eq_true (now_lt_of_no_moves hm hd)
  have hafter : ¬ (dues S T { w with now := due }).all (due < ·) = true := fun hall =>
    absurd (of_decide_eq_true (List.all_eq_true.mp hall due hdue)) (Nat.lt_irrefl due)
  rw [toGo, toGo, if_pos hbefore, if_neg hafter]
  omega

/-- An invariant of the states before the receiver leaves. It is kept, with less work left after
each move, until a move with which the receiver leaves. -/
theorem Leaves.of_invariant {start : Line γ σ τ} {how : Nat → Ending α → τ → Prop}
    (hT : T.Settles) (inv : Line γ σ τ → Prop) (work : Line γ σ τ → Nat) (hstart : inv start)
    (hpost : ∀ w, inv w → T.ending w.receiver = none)
    (hsender : ∀ w, inv w → ∀ w' ∈ w.senderMoves S T (T.stopsOther w.receiver),
      inv w' ∧ work w' < work w)
    (hreceiver : ∀ w, inv w → ∀ w' ∈ w.receiverMoves S T (S.stopsOther w.sender),
      inv w' ∧ work w' < work w ∨ ∃ e, T.ending w'.receiver = some e ∧ how w'.now e w'.receiver)
    (hwait : ∀ w due, inv w → moves S T w = [] → (∀ d ∈ dues S T w, due ≤ d) → w.now < due →
      inv { w with now := due } ∧ work { w with now := due } ≤ work w)
    (hdue : ∀ w, inv w → moves S T w = [] → ∃ d, d ∈ dues S T w) : Leaves S T start how := by
  have hnext : ∀ w w', inv w → Next S T w w' → inv w' ∧ toGo S T work w' < toGo S T work w ∨
      ∃ e, T.ending w'.receiver = some e ∧ how w'.now e w'.receiver := by
    intro w w' hinv hstep
    rcases next_cases hstep with hs | hr | ⟨due, hm, rfl, hmem, hlate, hleast⟩
    · obtain ⟨hinv', hless⟩ := hsender w hinv w' hs
      exact .inl ⟨hinv', toGo_of_move hless⟩
    · exact (hreceiver w hinv w' hr).imp_left fun h => ⟨h.1, toGo_of_move h.2⟩
    · obtain ⟨hinv', hle⟩ := hwait w due hinv hm hleast hlate
      exact .inl ⟨hinv', toGo_of_wait hm hmem hle⟩
  have hkeeps : ∀ w w', inv w ∨ T.hasEnded w.receiver = true → Next S T w w' →
      inv w' ∨ T.hasEnded w'.receiver = true := by
    rintro w w' (hinv | hended) hstep
    · exact (hnext w w' hinv hstep).imp And.left fun ⟨_, he, _⟩ => hasEnded_of_ending he
    · exact .inr (by rw [next_receiver hT hended hstep]; exact hended)
  have hreached : ∀ w, Reaches S T start w → inv w ∨ T.hasEnded w.receiver = true := by
    intro w hreach
    induction hreach with
    | refl => exact .inl hstart
    | tail _ hstep ih => exact hkeeps _ _ ih hstep
  constructor
  · intro w w' e hreach hstep hwaits hended
    rcases hreached w hreach with hinv | hgone
    · rcases hnext w w' hinv hstep with ⟨hinv', -⟩ | ⟨e', he', hhow⟩
      · rw [hpost w' hinv'] at hended
        cases hended
      · rw [he'] at hended
        cases hended
        exact hhow
    · rw [Task.hasEnded, hwaits] at hgone
      cases hgone
  · intro w hreach
    refine .of_shrinking (fun w => inv w ∨ T.hasEnded w.receiver = true)
      (fun w => if T.hasEnded w.receiver then 0 else toGo S T work w + 1) ?_ hkeeps ?_
      (hreached w hreach)
    · rintro w (hinv | hended) hgoal
      · exact exists_next (hdue w hinv)
      · exact absurd hended hgoal
    · rintro w w' (hinv | hended) hgoal hstep
      · rw [if_neg hgoal]
        rcases hnext w w' hinv hstep with ⟨-, hless⟩ | ⟨e, he, -⟩
        · split
          · exact Nat.succ_pos _
          · exact Nat.succ_lt_succ hless
        · rw [if_pos (hasEnded_of_ending he)]
          exact Nat.succ_pos _
      · exact absurd hended hgoal

end Line

end Crossover

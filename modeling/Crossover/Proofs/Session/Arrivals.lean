import Crossover.Proofs.Session.Passing

/-!
# Arrivals on a line

Items arrive on a line at given times, the line may be closed and its receiver stopped. A trader
that attends to such a line sees the items as long as each comes in time, and then leaves; how
it leaves does not depend on the interleaving, as long as an item does not arrive just when the
trader is stopped or gives up.
-/

namespace Crossover

variable {α γ τ : Type}

structure Arrivals (γ : Type) where
  coming : List (Nat × γ)
  /-- An item that has arrived and has not been put on the line yet. -/
  door : Option γ
  closing : Option Nat
  stopping : Option Nat
  closed : Bool
  stopped : Bool

namespace Arrivals

def begin (arrivals : List (Nat × γ)) (closing stopping : Option Nat) : Arrivals γ :=
  ⟨arrivals, none, closing, stopping, false, false⟩

/-- The next item, unless the line is closed before it arrives. -/
def nextUp? (s : Arrivals γ) : Option (Nat × γ) :=
  s.coming.head?.filter fun a => s.closing.all (a.1 ≤ ·)

def sending (s : Arrivals γ) : List (Branch γ (Arrivals γ)) :=
  if s.closed then []
  else match s.door, s.nextUp? with
    | some item, _ =>
      [.onSend item (fun _ => { s with door := none }) fun _ => { s with door := none }]
    | none, some (due, item) =>
      [.onTime due fun _ => { s with coming := s.coming.tail, door := some item }]
    | none, none => s.closing.toList.map fun due => .onTime due fun _ => { s with closed := true }

def alarm (s : Arrivals γ) : List (Branch γ (Arrivals γ)) :=
  if s.stopped then []
  else s.stopping.toList.map fun due => .onTime due fun _ => { s with stopped := true }

/-- The sender holds the line until it closes it, and stops the receiver from the time it does
so on. -/
def task (α γ : Type) : Task α γ (Arrivals γ) where
  branches s := s.sending ++ s.alarm
  ending s := if s.closed then some (.returned (.ok ())) else none
  holdsLine s := !s.closed
  stopsOther s := s.stopped

theorem nextUp?_eq_some {s : Arrivals γ} {a : Nat × γ} (h : s.nextUp? = some a) :
    s.coming = a :: s.coming.tail ∧ ∀ c ∈ s.closing, a.1 ≤ c := by
  obtain ⟨hhead, hclosing⟩ := Option.filter_eq_some_iff.mp h
  obtain ⟨rest, hcoming⟩ := List.head?_eq_some_iff.mp hhead
  refine ⟨by rw [hcoming, List.tail_cons], fun c hc => ?_⟩
  rw [Option.mem_def.mp hc] at hclosing
  simpa using hclosing

theorem nextUp?_eq_none {s : Arrivals γ} (h : s.nextUp? = none) {a : Nat × γ}
    {rest : List (Nat × γ)} (hcoming : s.coming = a :: rest) : ∃ c ∈ s.closing, c < a.1 := by
  rw [nextUp?, hcoming, List.head?_cons, Option.filter_eq_none_iff] at h
  have hlate := h a rfl
  cases hc : s.closing with
  | none => simp [hc] at hlate
  | some c => exact ⟨c, rfl, by simpa [hc] using hlate⟩

section Branches

variable {s : Arrivals γ}

theorem sending_of_closed (h : s.closed = true) : s.sending = [] := if_pos h

theorem sending_of_door {item : γ} (hclosed : s.closed = false) (hdoor : s.door = some item) :
    s.sending = [.onSend item (fun _ => { s with door := none })
      fun _ => { s with door := none }] := by
  simp [sending, hclosed, hdoor]

theorem sending_of_nextUp {due : Nat} {item : γ} (hclosed : s.closed = false)
    (hdoor : s.door = none) (h : s.nextUp? = some (due, item)) :
    s.sending = [.onTime due fun _ =>
      { s with coming := s.coming.tail, door := some item }] := by
  simp [sending, hclosed, hdoor, h]

theorem sending_of_exhausted (hclosed : s.closed = false) (hdoor : s.door = none)
    (h : s.nextUp? = none) :
    s.sending = s.closing.toList.map fun due => .onTime due fun _ => { s with closed := true } := by
  simp [sending, hclosed, hdoor, h]

theorem alarm_of_silent (h : s.stopped = false) :
    s.alarm = s.stopping.toList.map fun due => .onTime due fun _ => { s with stopped := true } :=
  if_neg (by simp [h])

theorem nextUp_mem_dues {due : Nat} {item : γ} (hclosed : s.closed = false)
    (hdoor : s.door = none) (h : s.nextUp? = some (due, item)) : due ∈ (task α γ).dues s :=
  Task.mem_dues_iff.mpr ⟨_, List.mem_append_left _
    (by rw [sending_of_nextUp hclosed hdoor h]; exact List.mem_singleton_self _)⟩

theorem closing_mem_dues {due : Nat} (hclosed : s.closed = false) (hdoor : s.door = none)
    (hnext : s.nextUp? = none) (h : s.closing = some due) : due ∈ (task α γ).dues s :=
  Task.mem_dues_iff.mpr ⟨_, List.mem_append_left _
    (by rw [sending_of_exhausted hclosed hdoor hnext, h]; exact List.mem_singleton_self _)⟩

theorem stopping_mem_dues {due : Nat} (hstopped : s.stopped = false)
    (h : s.stopping = some due) : due ∈ (task α γ).dues s :=
  Task.mem_dues_iff.mpr ⟨_, List.mem_append_right _
    (by rw [alarm_of_silent hstopped, h]; exact List.mem_singleton_self _)⟩

end Branches

section Moves

variable {T : Task α γ τ} {stop : Bool} {l l' : Line γ (Arrivals γ) τ}

/-- An item arrives, is given up or put on the line, the line is closed, or the alarm goes. -/
inductive Move (T : Task α γ τ) (l : Line γ (Arrivals γ) τ) : Line γ (Arrivals γ) τ → Prop
  | arrive {due : Nat} {item : γ} : l.sender.closed = false → l.sender.door = none →
      l.sender.nextUp? = some (due, item) → due ≤ l.now →
      Move T l { l with sender :=
        { l.sender with coming := l.sender.coming.tail, door := some item } }
  | giveUp : T.holdsLine l.receiver = false →
      Move T l { l with sender := { l.sender with door := none } }
  | send {item : γ} : l.sender.closed = false → l.sender.door = some item → l.slot = none →
      Move T l { l with slot := some item, sender := { l.sender with door := none } }
  | close {due : Nat} : l.sender.closed = false → l.sender.door = none →
      l.sender.nextUp? = none → l.sender.closing = some due → due ≤ l.now →
      Move T l { l with sender := { l.sender with closed := true } }
  | alarm {due : Nat} : l.sender.stopped = false → l.sender.stopping = some due → due ≤ l.now →
      Move T l { l with sender := { l.sender with stopped := true } }

theorem move_of_sending {b : Branch γ (Arrivals γ)} (hb : b ∈ l.sender.sending)
    (hmove : l.senderMove? (T.holdsLine l.receiver) stop b = some l') : Move T l l' := by
  cases hclosed : l.sender.closed with
  | true => simp [sending_of_closed hclosed] at hb
  | false =>
      cases hdoor : l.sender.door with
      | some item =>
          rw [sending_of_door hclosed hdoor, List.mem_singleton] at hb
          subst hb
          rcases Line.onSend_cases hmove with ⟨hT, rfl⟩ | ⟨hslot, rfl⟩
          · exact .giveUp hT
          · exact .send hclosed hdoor hslot
      | none =>
          cases hnext : l.sender.nextUp? with
          | some a =>
              rw [sending_of_nextUp hclosed hdoor hnext, List.mem_singleton] at hb
              subst hb
              obtain ⟨hdue, heq⟩ := Option.ite_none_right_eq_some.mp hmove
              cases heq
              exact .arrive hclosed hdoor hnext hdue
          | none =>
              rw [sending_of_exhausted hclosed hdoor hnext] at hb
              obtain ⟨due, hclosing, rfl⟩ := List.mem_map.mp hb
              obtain ⟨hdue, heq⟩ := Option.ite_none_right_eq_some.mp hmove
              cases heq
              exact .close hclosed hdoor hnext (Option.mem_toList.mp hclosing) hdue

theorem move_of_senderMoves (h : l' ∈ l.senderMoves (task α γ) T stop) : Move T l l' := by
  obtain ⟨b, hb, hmove⟩ := List.mem_filterMap.mp h
  rcases List.mem_append.mp hb with hb | hb
  · exact move_of_sending hb hmove
  · cases hstopped : l.sender.stopped with
    | true => simp [alarm, hstopped] at hb
    | false =>
        rw [alarm_of_silent hstopped] at hb
        obtain ⟨due, hstopping, rfl⟩ := List.mem_map.mp hb
        obtain ⟨hdue, heq⟩ := Option.ite_none_right_eq_some.mp hmove
        cases heq
        exact .alarm hstopped (Option.mem_toList.mp hstopping) hdue

theorem sent_mem_senderMoves {item : γ} (hclosed : l.sender.closed = false)
    (hdoor : l.sender.door = some item) (hT : T.holdsLine l.receiver = true)
    (hslot : l.slot = none) :
    { l with slot := some item, sender := { l.sender with door := none } } ∈
      l.senderMoves (task α γ) T stop := by
  have hb : .onSend item (fun _ => { l.sender with door := none })
      (fun _ => { l.sender with door := none }) ∈ (task α γ).branches l.sender :=
    List.mem_append_left _
      (by rw [sending_of_door hclosed hdoor]; exact List.mem_singleton_self _)
  exact Line.sent_mem_senderMoves hb hT hslot

end Moves

end Arrivals

/-- What can end a trader's stay: the idle time, and the times of a stop and of the close of the
line. -/
structure Limits where
  idle : Option Nat
  stop : Option Nat
  close : Option Nat

namespace Limits

/-- An item in time comes less than the idle time after the one before, before the stop, and not
after the close. -/
def InTime (l : Limits) (since time : Nat) : Prop :=
  (∀ d ∈ l.idle, time < since + d) ∧ (∀ s ∈ l.stop, time < s) ∧ ∀ c ∈ l.close, time ≤ c

instance (l : Limits) (since time : Nat) : Decidable (l.InTime since time) :=
  inferInstanceAs (Decidable (_ ∧ _))

/-- The first items, as long as they come in time. -/
def heard (l : Limits) : Nat → List (Nat × γ) → List (Nat × γ)
  | _, [] => []
  | since, a :: rest => if l.InTime since a.1 then a :: l.heard a.1 rest else []

/-- The time of the last item, or else the start. -/
def lastTime (since : Nat) (items : List (Nat × γ)) : Nat :=
  (items.getLast?.map Prod.fst).getD since

/-- The times at which a trader leaves that heard the last item at that time. -/
def ends (l : Limits) (last : Nat) : List Nat :=
  (l.idle.map (last + ·)).toList ++ (l.stop.toList ++ l.close.toList)

@[simp] theorem lastTime_nil (since : Nat) : lastTime since ([] : List (Nat × γ)) = since := rfl

@[simp] theorem lastTime_cons (since : Nat) (a : Nat × γ) (rest : List (Nat × γ)) :
    lastTime since (a :: rest) = lastTime a.1 rest := by
  cases h : rest.getLast? <;> simp [lastTime, List.getLast?_cons, h]

theorem heard_cons {l : Limits} {since : Nat} {a : Nat × γ} {rest : List (Nat × γ)}
    (h : l.InTime since a.1) : l.heard since (a :: rest) = a :: l.heard a.1 rest :=
  if_pos h

theorem heard_eq_nil {l : Limits} {since : Nat} {items : List (Nat × γ)}
    (h : ∀ a ∈ items, ¬ l.InTime since a.1) : l.heard since items = [] := by
  cases items with
  | nil => rfl
  | cons a rest => exact if_neg (h a List.mem_cons_self)

theorem mem_ends_iff {l : Limits} {last time : Nat} :
    time ∈ l.ends last ↔
      (∃ d ∈ l.idle, last + d = time) ∨ time ∈ l.stop ∨ time ∈ l.close := by
  simp [ends, Option.mem_def]

def Punctual (l : Limits) : Nat → List (Nat × γ) → Prop
  | _, [] => True
  | since, a :: rest => l.InTime since a.1 ∧ l.Punctual a.1 rest

instance decidablePunctual (l : Limits) :
    (since : Nat) → (items : List (Nat × γ)) → Decidable (l.Punctual since items)
  | _, [] => isTrue trivial
  | _, a :: rest =>
    have := decidablePunctual l a.1 rest
    inferInstanceAs (Decidable (_ ∧ _))

theorem heard_prefix (l : Limits) (since : Nat) (items : List (Nat × γ)) :
    l.heard since items <+: items := by
  induction items generalizing since with
  | nil => exact List.prefix_rfl
  | cons a rest ih =>
      by_cases h : l.InTime since a.1
      · rw [heard_cons h]
        exact (List.prefix_cons_inj a).mpr (ih a.1)
      · rw [heard, if_neg h]
        exact List.nil_prefix

theorem punctual_heard (l : Limits) (since : Nat) (items : List (Nat × γ)) :
    l.Punctual since (l.heard since items) := by
  induction items generalizing since with
  | nil => trivial
  | cons a rest ih =>
      by_cases h : l.InTime since a.1
      · rw [heard_cons h]
        exact ⟨h, ih a.1⟩
      · rw [heard, if_neg h]
        trivial

theorem heard_longest {l : Limits} {since : Nat} {items other : List (Nat × γ)}
    (h : other <+: items) (hpunctual : l.Punctual since other) :
    other <+: l.heard since items := by
  induction items generalizing since other with
  | nil => rw [List.prefix_nil.mp h]; exact List.nil_prefix
  | cons a rest ih =>
      cases other with
      | nil => exact List.nil_prefix
      | cons b other =>
          obtain ⟨rfl, hrest⟩ := List.cons_prefix_cons.mp h
          rw [heard_cons hpunctual.1]
          exact (List.prefix_cons_inj b).mpr (ih hrest hpunctual.2)

end Limits

end Crossover

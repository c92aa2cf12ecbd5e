import Crossover.Proofs.Session.Arrivals

/-!
# A trader attends to arrivals

Whatever the interleaving, a trader takes the items that come in time, one after the other, and
leaves at the first time at which it is stopped, the line is closed or its idle time is over; or
it leaves with the failure of the first item it cannot handle.
-/

namespace Crossover.Attendance

variable {α γ τ : Type} {handle : γ → τ → τ × Except (Failure α) Unit}

/-- The trader after these items, up to the first that it cannot handle. -/
def handleEach (handle : γ → τ → τ × Except (Failure α) Unit) :
    List γ → τ → τ × Except (Failure α) Unit
  | [], s => (s, .ok ())
  | item :: rest, s =>
    match handle item s with
    | (s, .ok ()) => handleEach handle rest s
    | (s, .error f) => (s, .error f)

theorem handleEach_cons_ok {item : γ} {rest : List γ} {s s' : τ}
    (h : handle item s = (s', .ok ())) :
    handleEach handle (item :: rest) s = handleEach handle rest s' := by
  rw [handleEach, h]

theorem handleEach_cons_error {item : γ} {rest : List γ} {s s' : τ} {f : Failure α}
    (h : handle item s = (s', .error f)) :
    handleEach handle (item :: rest) s = (s', .error f) := by
  rw [handleEach, h]

theorem take_of_ok {item : γ} {idle : Option Nat} {now : Nat} {s : Attendance α τ} {t : τ}
    (h : handle item s.trader = (t, .ok ())) :
    s.take handle idle item now = ⟨t, .waiting (dueAfter idle now)⟩ := by
  rw [take, h]

theorem take_of_error {item : γ} {idle : Option Nat} {now : Nat} {s : Attendance α τ} {t : τ}
    {f : Failure α} (h : handle item s.trader = (t, .error f)) :
    s.take handle idle item now = ⟨t, .left (.failed f)⟩ := by
  rw [take, h]

abbrev Attended (α γ τ : Type) : Type := Line γ (Arrivals γ) (Attendance α τ)

/-- An item is on its way from the door to the trader. -/
def Carries (w : Attended α γ τ) : Prop := w.slot ≠ none ∨ w.sender.door ≠ none

/-- The time at which the last item came that the trader has taken or will find. -/
def latest (w : Attended α γ τ) (since : Nat) : Nat :=
  if w.slot.isSome || w.sender.door.isSome then w.now else since

/-- What the trader has still to handle if it hears all that comes in time. -/
def ahead (l : Limits) (w : Attended α γ τ) (since : Nat) : List γ :=
  w.slot.toList ++ (w.sender.door.toList ++
    (l.heard (latest w since) w.sender.coming).map Prod.snd)

theorem latest_of_carries {w : Attended α γ τ} {since : Nat} (h : Carries w) :
    latest w since = w.now := by
  rw [latest, if_pos]
  simpa [Carries, Option.isSome_iff_ne_none] using h

theorem latest_of_empty {w : Attended α γ τ} {since : Nat} (h : ¬ Carries w) :
    latest w since = since := by
  rw [latest, if_neg]
  simpa [Carries, Option.isSome_iff_ne_none] using h

/-- The trader is at its post. It came to it or took an item last at the time `since`; what it
is still going to handle has this result, and the last item that comes in time comes at the time
`last`. -/
structure Awaits (handle : γ → τ → τ × Except (Failure α) Unit) (l : Limits)
    (result : τ × Except (Failure α) Unit) (last : Nat) (w : Attended α γ τ) (since : Nat) :
    Prop where
  presence : w.receiver.presence = .waiting (dueAfter l.idle since)
  stopping : w.sender.stopping = l.stop
  closing : w.sender.closing = l.close
  result_eq : handleEach handle (ahead l w since) w.receiver.trader = result
  last_eq : Limits.lastTime (latest w since)
    (l.heard (latest w since) w.sender.coming) = last
  sorted : w.sender.coming.Pairwise (·.1 ≤ ·.1)
  coming : ∀ a ∈ w.sender.coming, w.now ≤ a.1
  apart : ∀ a ∈ w.sender.coming, l.stop ≠ some a.1 ∧ ∀ d ∈ l.idle, a.1 ≠ last + d
  since_le : since ≤ w.now
  beforeIdle : ∀ d ∈ l.idle, w.now ≤ since + d
  beforeStop : ∀ s ∈ l.stop, w.now ≤ s
  beforeClose : ∀ c ∈ l.close, w.now ≤ c
  carried : Carries w → (∀ d ∈ l.idle, w.now < since + d) ∧ ∀ s ∈ l.stop, w.now < s
  stopped : w.sender.stopped = true → l.stop = some w.now
  closed : w.sender.closed = true → l.close = some w.now ∧ w.sender.door = none ∧
    ∀ a ∈ w.sender.coming, w.now < a.1

/-- How a trader leaves that has handled all it has heard: with the result of that, and at the
first of the times at which it may leave. -/
def LeavesAs (l : Limits) (result : τ × Except (Failure α) Unit) (last now : Nat)
    (e : Ending α) (a : Attendance α τ) : Prop :=
  e = .returned result.2 ∧ a.trader = result.1 ∧
    (result.2 = .ok () → (l.ends last).min? = some now)

namespace Awaits

variable {l : Limits} {result : τ × Except (Failure α) Unit} {last since : Nat}
  {w w' : Attended α γ τ}

theorem start (l : Limits) (arrivals : List (Nat × γ)) (s : τ)
    (hsorted : arrivals.Pairwise (·.1 ≤ ·.1))
    (hstop : ∀ a ∈ arrivals, l.stop ≠ some a.1)
    (hidle : ∀ a ∈ arrivals, ∀ d ∈ l.idle, a.1 ≠ Limits.lastTime 0 (l.heard 0 arrivals) + d) :
    Awaits handle l (handleEach handle ((l.heard 0 arrivals).map Prod.snd) s)
      (Limits.lastTime 0 (l.heard 0 arrivals))
      (.start (.begin arrivals l.close l.stop) (.begin l.idle 0 s)) 0 where
  presence := rfl
  stopping := rfl
  closing := rfl
  result_eq := rfl
  last_eq := rfl
  sorted := hsorted
  coming _ _ := Nat.zero_le _
  apart a ha := ⟨hstop a ha, hidle a ha⟩
  since_le := Nat.le_refl 0
  beforeIdle _ _ := Nat.zero_le _
  beforeStop _ _ := Nat.zero_le _
  beforeClose _ _ := Nat.zero_le _
  carried h := by rcases h with h | h <;> exact absurd rfl h
  stopped h := by cases h
  closed h := by cases h

theorem ending (h : Awaits handle l result last w since) : w.receiver.ending = none :=
  ending_waiting h.presence

/-- While an item is on its way, one that comes right now is in time. -/
theorem inTime_of_carries (h : Awaits handle l result last w since) (hc : Carries w) :
    l.InTime w.now w.now := by
  obtain ⟨hidle, hstop⟩ := h.carried hc
  refine ⟨fun d hd => ?_, hstop, h.beforeClose⟩
  have := hidle d hd
  have := h.since_le
  omega

/-- The next item, if it arrives now, is in time. -/
theorem inTime (h : Awaits handle l result last w since) {a : Nat × γ} {rest : List (Nat × γ)}
    (hcoming : w.sender.coming = a :: rest) (hnow : a.1 = w.now) :
    l.InTime (latest w since) a.1 := by
  by_cases hc : Carries w
  · rw [latest_of_carries hc, hnow]
    exact h.inTime_of_carries hc
  · rw [latest_of_empty hc]
    have hmem : a ∈ w.sender.coming := hcoming ▸ List.mem_cons_self
    have hlast := h.last_eq
    rw [latest_of_empty hc, hcoming] at hlast
    refine ⟨fun d hd => ?_, fun s hs => ?_, hnow ▸ h.beforeClose⟩
    -- at the very end of the idle time nothing arrives, were it not in time it would be this item
    · refine Nat.lt_of_le_of_ne (hnow ▸ h.beforeIdle d hd) fun htie => ?_
      have hnot : ¬ l.InTime since a.1 := fun hin => by
        have := hin.1 d hd
        omega
      rw [Limits.heard, if_neg hnot, Limits.lastTime_nil] at hlast
      exact (h.apart a hmem).2 d hd (by rw [htie, hlast])
    · refine Nat.lt_of_le_of_ne (hnow ▸ h.beforeStop s hs) fun htie => ?_
      exact (h.apart a hmem).1 (by rw [htie]; exact hs)

section Moves

variable {w : Attended α γ τ}

theorem arrive (h : Awaits handle l result last w since) {due : Nat} {item : γ}
    (hdoor : w.sender.door = none) (hnext : w.sender.nextUp? = some (due, item))
    (hdue : due ≤ w.now) :
    Awaits handle l result last { w with sender :=
      { w.sender with coming := w.sender.coming.tail, door := some item } } since := by
  obtain ⟨hcoming, -⟩ := Arrivals.nextUp?_eq_some hnext
  have hmem : (due, item) ∈ w.sender.coming := hcoming ▸ List.mem_cons_self
  have hnow : due = w.now := Nat.le_antisymm hdue (h.coming _ hmem)
  have hin := h.inTime hcoming hnow
  have htail : ∀ a ∈ w.sender.coming.tail, a ∈ w.sender.coming := fun a =>
    List.mem_of_mem_tail
  have hlatest : latest { w with sender :=
      { w.sender with coming := w.sender.coming.tail, door := some item } } since = due := by
    rw [latest_of_carries (.inr (Option.some_ne_none item)), hnow]
  have hheard : l.heard (latest w since) w.sender.coming =
      (due, item) :: l.heard due w.sender.coming.tail := by
    rw [hcoming, Limits.heard_cons hin, List.tail_cons]
  have hlast := h.last_eq
  have hresult := h.result_eq
  rw [ahead, hheard, hdoor] at hresult
  rw [hheard, Limits.lastTime_cons] at hlast
  exact
    { h with
      result_eq := by rw [← hresult, ahead, hlatest]; rfl
      last_eq := by rw [hlatest]; exact hlast
      sorted := h.sorted.tail
      coming := fun a ha => h.coming a (htail a ha)
      apart := fun a ha => h.apart a (htail a ha)
      carried := fun _ => by
        by_cases hc : Carries w
        · exact h.carried hc
        · rw [latest_of_empty hc, hnow] at hin
          exact ⟨hin.1, hin.2.1⟩
      closed := fun hclosed =>
        absurd ((h.closed hclosed).2.2 _ hmem) (by rw [hnow]; exact Nat.lt_irrefl _) }

theorem send (h : Awaits handle l result last w since) {item : γ}
    (hdoor : w.sender.door = some item) (hslot : w.slot = none) :
    Awaits handle l result last
      { w with slot := some item, sender := { w.sender with door := none } } since := by
  have hlatest : latest { w with slot := some item, sender := { w.sender with door := none } }
      since = latest w since := by
    simp [latest, hdoor]
  have hresult := h.result_eq
  rw [ahead, hdoor, hslot] at hresult
  exact
    { h with
      result_eq := by rw [← hresult, ahead, hlatest]; rfl
      last_eq := by rw [hlatest]; exact h.last_eq
      carried := fun _ => h.carried (.inr (by rw [hdoor]; exact Option.some_ne_none item))
      closed := fun hclosed => ⟨(h.closed hclosed).1, rfl, (h.closed hclosed).2.2⟩ }

theorem close (h : Awaits handle l result last w since) {due : Nat}
    (hdoor : w.sender.door = none) (hnext : w.sender.nextUp? = none)
    (hclosing : w.sender.closing = some due) (hdue : due ≤ w.now) :
    Awaits handle l result last { w with sender := { w.sender with closed := true } } since := by
  have hclose : l.close = some due := h.closing ▸ hclosing
  have hnow : due = w.now := Nat.le_antisymm hdue (h.beforeClose due hclose)
  refine { h with closed := fun _ => ⟨hnow ▸ hclose, hdoor, fun a ha => ?_⟩ }
  cases hcoming : w.sender.coming with
  | nil => rw [hcoming] at ha; exact absurd ha List.not_mem_nil
  | cons first rest =>
      obtain ⟨c, hc, hlate⟩ := Arrivals.nextUp?_eq_none hnext hcoming
      rw [hclosing, Option.mem_some_iff] at hc
      have hfirst : w.now < first.1 := by omega
      have hsorted := h.sorted
      rw [hcoming] at ha hsorted
      rcases List.mem_cons.mp ha with rfl | ha
      · exact hfirst
      · exact Nat.lt_of_lt_of_le hfirst ((List.pairwise_cons.mp hsorted).1 a ha)

theorem alarm (h : Awaits handle l result last w since) {due : Nat}
    (hstopping : w.sender.stopping = some due) (hdue : due ≤ w.now) :
    Awaits handle l result last { w with sender := { w.sender with stopped := true } } since := by
  have hstop : l.stop = some due := h.stopping ▸ hstopping
  have hnow : due = w.now := Nat.le_antisymm hdue (h.beforeStop due hstop)
  exact { h with stopped := fun _ => hnow ▸ hstop }

/-- The trader takes an item and goes on, or leaves with the failure of handling it. -/
theorem take (h : Awaits handle l result last w since) {item : γ} (hslot : w.slot = some item) :
    Awaits handle l result last
        { w with slot := none, receiver := w.receiver.take handle l.idle item w.now } w.now ∨
      ∃ e, (w.receiver.take handle l.idle item w.now).ending = some e ∧
        LeavesAs l result last w.now e (w.receiver.take handle l.idle item w.now) := by
  have hcarries : Carries w := .inl (by rw [hslot]; exact Option.some_ne_none item)
  have hresult := h.result_eq
  have hlast := h.last_eq
  rw [ahead, hslot, Option.toList_some, List.singleton_append, latest_of_carries hcarries]
    at hresult
  rw [latest_of_carries hcarries] at hlast
  cases hhandle : handle item w.receiver.trader with
  | mk t r =>
      cases r with
      | error f =>
          rw [handleEach_cons_error hhandle] at hresult
          rw [take_of_error hhandle]
          refine .inr ⟨.returned (.error f), rfl, ?_⟩
          rw [← hresult]
          exact ⟨rfl, rfl, fun hok => by cases hok⟩
      | ok u =>
          rw [handleEach_cons_ok hhandle] at hresult
          rw [take_of_ok hhandle]
          have hlatest : latest { w with slot := none, receiver :=
              (⟨t, .waiting (dueAfter l.idle w.now)⟩ : Attendance α τ) } w.now = w.now := by
            simp [latest]
          have hin := h.inTime_of_carries hcarries
          exact .inl
            { h with
              presence := rfl
              result_eq := by rw [← hresult, ahead, hlatest]; rfl
              last_eq := by rw [hlatest]; exact hlast
              since_le := Nat.le_refl _
              beforeIdle := fun d _ => Nat.le_add_right _ d
              carried := fun _ => ⟨hin.1, hin.2.1⟩ }

/-- With nothing on its way and nothing more in time, the trader has handled all it has heard,
and may leave now if this is one of the times for it. -/
theorem leavesAs (h : Awaits handle l result last w since) (hc : ¬ Carries w)
    (hlate : ∀ a ∈ w.sender.coming, ¬ l.InTime since a.1) (hnow : w.now ∈ l.ends since)
    (why : Leaving α) (hwhy : ∀ f, why ≠ .failed f) :
    ∃ e, (w.receiver.leave why).ending = some e ∧
      LeavesAs l result last w.now e (w.receiver.leave why) := by
  have hslot : w.slot = none := Classical.byContradiction fun hne => hc (.inl hne)
  have hdoor : w.sender.door = none := Classical.byContradiction fun hne => hc (.inr hne)
  have hresult := h.result_eq
  have hlast := h.last_eq
  rw [ahead, latest_of_empty hc, Limits.heard_eq_nil hlate, hslot, hdoor] at hresult
  rw [latest_of_empty hc, Limits.heard_eq_nil hlate] at hlast
  refine ⟨.returned (.ok ()), ?_, ?_⟩
  · cases why with
    | failed f => exact absurd rfl (hwhy f)
    | _ => rfl
  · rw [← hresult, ← hlast]
    refine ⟨rfl, rfl, fun _ => List.min?_eq_some_iff.mpr ⟨hnow, fun time htime => ?_⟩⟩
    rcases Limits.mem_ends_iff.mp htime with ⟨d, hd, rfl⟩ | hs | hclose
    · exact h.beforeIdle d hd
    · exact h.beforeStop _ hs
    · exact h.beforeClose _ hclose

theorem leaveStopped (h : Awaits handle l result last w since) (hs : w.sender.stopped = true) :
    ∃ e, (w.receiver.leave .stopped).ending = some e ∧
      LeavesAs l result last w.now e (w.receiver.leave .stopped) := by
  have hstop := h.stopped hs
  have hc : ¬ Carries w := fun hc => absurd ((h.carried hc).2 _ hstop) (Nat.lt_irrefl _)
  refine h.leavesAs hc (fun a ha hin => ?_) (Limits.mem_ends_iff.mpr (.inr (.inl hstop))) _
    fun f hf => by cases hf
  have hearly := hin.2.1 _ hstop
  have := h.coming a ha
  omega

theorem leaveClosed (h : Awaits handle l result last w since) (hslot : w.slot = none)
    (hclosed : w.sender.closed = true) :
    ∃ e, (w.receiver.leave .closed).ending = some e ∧
      LeavesAs l result last w.now e (w.receiver.leave .closed) := by
  obtain ⟨hclose, hdoor, hlater⟩ := h.closed hclosed
  have hc : ¬ Carries w := by
    rintro (hne | hne)
    · exact hne hslot
    · exact hne hdoor
  refine h.leavesAs hc (fun a ha hin => ?_) (Limits.mem_ends_iff.mpr (.inr (.inr hclose))) _
    fun f hf => by cases hf
  have hearly := hin.2.2 _ hclose
  have := hlater a ha
  omega

theorem leaveIdle (h : Awaits handle l result last w since) {due : Nat}
    (hidle : dueAfter l.idle since = some due) (hdue : due ≤ w.now) :
    ∃ e, (w.receiver.leave .idle).ending = some e ∧
      LeavesAs l result last w.now e (w.receiver.leave .idle) := by
  obtain ⟨d, hd, rfl⟩ := Option.map_eq_some_iff.mp hidle
  have hnow : since + d = w.now := Nat.le_antisymm hdue (h.beforeIdle d hd)
  have hc : ¬ Carries w := fun hc => by
    have := (h.carried hc).1 d hd
    omega
  refine h.leavesAs hc (fun a ha hin => ?_) (Limits.mem_ends_iff.mpr (.inl ⟨d, hd, hnow⟩)) _
    fun f hf => by cases hf
  have hearly := hin.1 d hd
  have := h.coming a ha
  omega

end Moves

section Rest

variable {w : Attended α γ τ}

/-- Where nobody can move, nothing is on its way, and neither stop nor close has come. -/
theorem rest_of_no_moves (h : Awaits handle l result last w since)
    (hm : Line.moves (Arrivals.task α γ) (task handle l.idle) w = []) :
    w.slot = none ∧ w.sender.door = none ∧ w.sender.closed = false ∧
      w.sender.stopped = false := by
  have hslot : w.slot = none := by
    cases hslot : w.slot with
    | none => rfl
    | some item =>
        exact absurd hm (Line.moves_of_receiver rfl (take_mem_receiverMoves h.presence hslot))
  have hclosed : w.sender.closed = false := by
    cases hclosed : w.sender.closed with
    | false => rfl
    | true =>
        have hmove : { w with receiver := w.receiver.leave .closed } ∈
            w.receiverMoves (Arrivals.task α γ) (task handle l.idle) w.sender.stopped :=
          closed_mem_receiverMoves h.presence hslot (by simp [Arrivals.task, hclosed])
        exact absurd hm (Line.moves_of_receiver rfl hmove)
  have hholds : (task handle l.idle).holdsLine w.receiver = true := by
    rw [task_holdsLine, h.ending]
    rfl
  have hdoor : w.sender.door = none := by
    cases hdoor : w.sender.door with
    | none => rfl
    | some item =>
        exact absurd hm (Line.moves_of_sender rfl
          (Arrivals.sent_mem_senderMoves hclosed hdoor hholds hslot))
  have hstopped : w.sender.stopped = false := by
    cases hstopped : w.sender.stopped with
    | false => rfl
    | true =>
        have hmove : { w with receiver := w.receiver.leave .stopped } ∈
            w.receiverMoves (Arrivals.task α γ) (task handle l.idle) true :=
          stop_mem_receiverMoves h.presence
        exact absurd hm (Line.moves_of_receiver hstopped hmove)
  exact ⟨hslot, hdoor, hclosed, hstopped⟩

theorem idle_mem_dues (h : Awaits handle l result last w since) {d : Nat} (hd : d ∈ l.idle) :
    since + d ∈ Line.dues (Arrivals.task α γ) (task handle l.idle) w := by
  refine List.mem_append_right _ ?_
  have hpresence := h.presence
  rw [Option.mem_def.mp hd] at hpresence ⊢
  rw [dues_waiting hpresence]
  exact List.mem_singleton_self _

theorem wait (h : Awaits handle l result last w since) {due : Nat}
    (hm : Line.moves (Arrivals.task α γ) (task handle l.idle) w = [])
    (hleast : ∀ d ∈ Line.dues (Arrivals.task α γ) (task handle l.idle) w, due ≤ d)
    (hlate : w.now < due) : Awaits handle l result last { w with now := due } since := by
  obtain ⟨hslot, hdoor, hclosed, hstopped⟩ := h.rest_of_no_moves hm
  have hempty : ∀ now, ¬ Carries { w with now := now } := by
    rintro now (hne | hne)
    · exact hne hslot
    · exact hne hdoor
  have hlatest : latest { w with now := due } since = latest w since := by
    rw [latest_of_empty (hempty due), latest_of_empty (hempty w.now)]
  have hsender : ∀ d ∈ (Arrivals.task α γ).dues w.sender, due ≤ d := fun d hd =>
    hleast d (List.mem_append_left _ hd)
  -- the first item that is still to come, or the close before it, is waited for
  have hfirst : (∀ a ∈ w.sender.coming.head?, due ≤ a.1) ∧ ∀ c ∈ l.close, due ≤ c := by
    cases hnext : w.sender.nextUp? with
    | some a =>
        obtain ⟨hcoming, hclosing⟩ := Arrivals.nextUp?_eq_some hnext
        have hdue := hsender a.1 (Arrivals.nextUp_mem_dues hclosed hdoor hnext)
        rw [h.closing] at hclosing
        refine ⟨fun b hb => ?_, fun c hc => Nat.le_trans hdue (hclosing c hc)⟩
        rw [hcoming, List.head?_cons, Option.mem_some_iff] at hb
        exact hb ▸ hdue
    | none =>
        have hclose : ∀ c ∈ l.close, due ≤ c := fun c hc =>
          hsender c (Arrivals.closing_mem_dues hclosed hdoor hnext (h.closing ▸ hc))
        refine ⟨fun a ha => ?_, hclose⟩
        obtain ⟨rest, hcoming⟩ := List.head?_eq_some_iff.mp ha
        obtain ⟨c, hc, hearly⟩ := Arrivals.nextUp?_eq_none hnext hcoming
        exact Nat.le_of_lt (Nat.lt_of_le_of_lt (hclose c (h.closing ▸ hc)) hearly)
  exact
    { h with
      result_eq := by rw [← h.result_eq, ahead, hlatest]; rfl
      last_eq := by rw [hlatest]; exact h.last_eq
      coming := fun a ha => by
        have hsorted := h.sorted
        change a ∈ w.sender.coming at ha
        cases hcoming : w.sender.coming with
        | nil => rw [hcoming] at ha; exact absurd ha List.not_mem_nil
        | cons first rest =>
            rw [hcoming] at ha hsorted hfirst
            have hdue := hfirst.1 first rfl
            rcases List.mem_cons.mp ha with rfl | ha
            · exact hdue
            · exact Nat.le_trans hdue ((List.pairwise_cons.mp hsorted).1 a ha)
      since_le := Nat.le_trans h.since_le (Nat.le_of_lt hlate)
      beforeIdle := fun d hd => hleast _ (h.idle_mem_dues hd)
      beforeStop := fun s hs =>
        hsender s (Arrivals.stopping_mem_dues hstopped (h.stopping ▸ hs))
      beforeClose := hfirst.2
      carried := fun hc => absurd hc (hempty due)
      stopped := fun hs => by rw [hstopped] at hs; cases hs
      closed := fun hs => by rw [hclosed] at hs; cases hs }

/-- Somebody waits for a time as long as there is an idle time or the line is to be closed. -/
theorem exists_due (h : Awaits handle l result last w since)
    (hend : l.idle ≠ none ∨ l.close ≠ none)
    (hm : Line.moves (Arrivals.task α γ) (task handle l.idle) w = []) :
    ∃ d, d ∈ Line.dues (Arrivals.task α γ) (task handle l.idle) w := by
  obtain ⟨-, hdoor, hclosed, -⟩ := h.rest_of_no_moves hm
  rcases hend with hidle | hclose
  · obtain ⟨d, hd⟩ := Option.ne_none_iff_exists'.mp hidle
    exact ⟨_, h.idle_mem_dues hd⟩
  · obtain ⟨c, hc⟩ := Option.ne_none_iff_exists'.mp hclose
    cases hnext : w.sender.nextUp? with
    | some a => exact ⟨_, List.mem_append_left _ (Arrivals.nextUp_mem_dues hclosed hdoor hnext)⟩
    | none =>
        exact ⟨c, List.mem_append_left _
          (Arrivals.closing_mem_dues hclosed hdoor hnext (h.closing ▸ hc))⟩

end Rest

end Awaits

/-- What the two tasks have still to do: an item counts for three, one for each hand it goes
through. -/
def errands (w : Attended α γ τ) : Nat :=
  3 * w.sender.coming.length + 2 * w.sender.door.toList.length + w.slot.toList.length +
    (if w.sender.closed then 0 else 1) + if w.sender.stopped then 0 else 1

/-- Whatever the interleaving, a trader that attends to arrivals handles the items that come in
time, and then leaves; no item may come just when it is stopped or gives up. -/
theorem leaves_arrivals (handle : γ → τ → τ × Except (Failure α) Unit) (l : Limits)
    (hend : l.idle ≠ none ∨ l.close ≠ none) (arrivals : List (Nat × γ)) (s : τ)
    (hsorted : arrivals.Pairwise (·.1 ≤ ·.1)) (hstop : ∀ a ∈ arrivals, l.stop ≠ some a.1)
    (hidle : ∀ a ∈ arrivals, ∀ d ∈ l.idle, a.1 ≠ Limits.lastTime 0 (l.heard 0 arrivals) + d) :
    Line.Leaves (Arrivals.task α γ) (task handle l.idle)
      (.start (.begin arrivals l.close l.stop) (.begin l.idle 0 s))
      (LeavesAs l (handleEach handle ((l.heard 0 arrivals).map Prod.snd) s)
        (Limits.lastTime 0 (l.heard 0 arrivals))) := by
  refine .of_invariant (task_settles handle l.idle) (fun w => ∃ since, Awaits handle l _ _ w since)
    errands ⟨0, .start l arrivals s hsorted hstop hidle⟩ ?_ ?_ ?_ ?_ ?_
  · rintro w ⟨since, h⟩
    exact h.ending
  · rintro w ⟨since, h⟩ w' hmove
    cases Arrivals.move_of_senderMoves hmove with
    | arrive hclosed hdoor hnext hdue =>
        refine ⟨⟨since, h.arrive hdoor hnext hdue⟩, ?_⟩
        obtain ⟨hcoming, -⟩ := Arrivals.nextUp?_eq_some hnext
        have hlength := congrArg List.length hcoming
        simp only [List.length_cons] at hlength
        simp only [errands, hdoor, hlength, Option.toList_some, Option.toList_none,
          List.length_singleton, List.length_nil]
        omega
    | giveUp hgone =>
        rw [task_holdsLine, h.ending] at hgone
        cases hgone
    | send hclosed hdoor hslot =>
        refine ⟨⟨since, h.send hdoor hslot⟩, ?_⟩
        simp only [errands, hdoor, hslot, Option.toList_some, Option.toList_none,
          List.length_singleton, List.length_nil]
        omega
    | close hclosed hdoor hnext hclosing hdue =>
        refine ⟨⟨since, h.close hdoor hnext hclosing hdue⟩, ?_⟩
        simp only [errands, hclosed, Bool.false_eq_true, if_true, if_false]
        omega
    | alarm hstopped hstopping hdue =>
        refine ⟨⟨since, h.alarm hstopping hdue⟩, ?_⟩
        simp only [errands, hstopped, Bool.false_eq_true, if_true, if_false]
        omega
  · rintro w ⟨since, h⟩ w' hmove
    obtain ⟨due, hdue, hcases⟩ := receiverMoves_cases hmove
    rcases hcases with ⟨item, hslot, rfl⟩ | ⟨hslot, hclosed, rfl⟩ | ⟨hstopped, rfl⟩ |
      ⟨d, rfl, hd, rfl⟩
    · refine (h.take hslot).imp (fun h' => ⟨⟨_, h'⟩, ?_⟩) id
      simp only [errands, hslot, Option.toList_some, Option.toList_none, List.length_singleton,
        List.length_nil]
      omega
    · exact .inr (h.leaveClosed hslot (by simpa [Arrivals.task] using hclosed))
    · exact .inr (h.leaveStopped hstopped)
    · exact .inr (h.leaveIdle (Presence.waiting.inj (h.presence.symm.trans hdue)) hd)
  · rintro w due ⟨since, h⟩ hm hleast hlate
    exact ⟨⟨since, h.wait hm hleast hlate⟩, Nat.le_refl _⟩
  · rintro w ⟨since, h⟩ hm
    exact h.exists_due hend hm

end Crossover.Attendance

import Crossover.Proofs.Session.Polling

/-!
# A polled feed goes on

As long as the task at the other end comes back to the line, a polled feed puts call after call,
and hands over what they yield, until a call fails in time, the feed is stopped, or it has a bar
for a task that has hung up. Stopped outside a call it leaves at once, unless it takes a tick
first; and with a period longer than the limit for an answer it cannot take ticks for ever, so
that a stop always ends it.
-/

namespace Crossover

variable {α κ τ : Type}

def Phase.toDo : Phase α → Nat
  | .seeding _ reply => (reply.toOption.getD []).length + 2
  | .handing _ rest => rest.length + 2
  | .ticking _ => 1
  | .fetching _ _ _ _ => 3
  | .handingLatest _ _ => 2
  | .left _ => 0

namespace Polled

/-- What is left to do before so many calls were put after the first. -/
def toDo (calls : Nat) (s : Polled α κ) : Nat :=
  3 * (calls + 1 - s.asked.size) + s.phase.toDo

/-- How late the next tick will be, at the least, when the feed gets to it. -/
def late (now : Nat) (s : Polled α κ) : Nat :=
  match s.phase with
  | .ticking due => now + 1 - due
  | .handingLatest _ due => now + 1 - due
  | .fetching done limit _ due => min done limit + 1 - due
  | _ => 0

section Moves

variable {source : Source α κ} {p : Polling} {T : Task α (Candle α) τ} {stop : Bool}
  {w w' : Line (Candle α) (Polled α κ) τ}

theorem toDo_hand (p : Polling) (items : List (Candle α)) (now : Nat) (s : Polled α κ) :
    (s.hand p items now).phase.toDo = items.length + 1 := by
  cases items <;> rfl

theorem toDo_pos_of_listens {s : Polled α κ} (h : s.listens = true) : 0 < s.phase.toDo := by
  unfold listens at h
  unfold Phase.toDo
  cases hphase : s.phase <;> simp [hphase] at h ⊢

/-- A move either puts a call or leaves less to do before the next one. -/
theorem toDo_of_move (h : Move source p T stop w w') :
    w'.sender.asked.size = w.sender.asked.size ∧ w'.sender.phase.toDo < w.sender.phase.toDo ∨
      w'.sender.asked.size = w.sender.asked.size + 1 ∧
        w'.sender.phase.toDo = w.sender.phase.toDo + 2 := by
  cases h with
  | @seed done reply hphase _ =>
      refine .inl ⟨congrArg Array.size (asked_seed ..), ?_⟩
      rw [hphase]
      cases reply with
      | error f => exact Nat.succ_pos _
      | ok items =>
          simp only [seed, toDo_hand]
          exact Nat.lt_succ_self _
  | leave hlistens _ => exact .inl ⟨rfl, toDo_pos_of_listens hlistens⟩
  | hand hphase _ =>
      refine .inl ⟨congrArg Array.size (asked_hand ..), ?_⟩
      rw [toDo_hand, hphase]
      exact Nat.lt_succ_self _
  | tick hphase _ => exact .inr ⟨by simp [fetch], by simp [fetch, hphase, Phase.toDo]⟩
  | @answer done limit nextTick reply hphase _ _ =>
      refine .inl ⟨congrArg Array.size (asked_answer ..), ?_⟩
      rw [hphase]
      rcases reply with f | _ | ⟨item, rest⟩ <;> simp [Polled.answer, Polled.leave, Phase.toDo]
  | giveUp hphase _ _ => exact .inl ⟨rfl, by simp [Polled.giveUp, hphase, Phase.toDo]⟩
  | handLatest hphase _ => exact .inl ⟨rfl, by simp [hphase, Phase.toDo]⟩

theorem toDo_lt_of_move {calls : Nat} (h : Move source p T stop w w')
    (hcalls : w.sender.asked.size ≤ calls) : w'.sender.toDo calls < w.sender.toDo calls := by
  unfold toDo
  rcases toDo_of_move h with ⟨hsize, hless⟩ | ⟨hsize, hmore⟩
  · omega
  · omega

theorem dues_of_waiting {rank : τ → Nat} (hT : T.ComesBack rank) (hgoes : w.sender.ending = none)
    (hm : Line.moves (task source p) T w = []) : ∃ d, d ∈ Line.dues (task source p) T w := by
  by_cases hfree : w.slot = none ∨ T.holdsLine w.receiver = false
  · exact exists_due hfree hgoes hm
  · obtain ⟨hslot, hholds⟩ := not_or.mp hfree
    obtain ⟨item, hitem⟩ := Option.ne_none_iff_exists'.mp hslot
    exact Line.dues_of_loaded hT (Bool.eq_true_of_not_eq_false hholds) hitem hm

/-- With a task that comes back to the line, call after call is put until the feed has ended. -/
theorem calls_on {rank : τ → Nat} (hT : T.ComesBack rank) (source : Source α κ) (p : Polling)
    (calls : Nat) (w : Line (Candle α) (Polled α κ) τ) :
    Inevitable (Line.Next (task source p) T)
      (fun w' => calls < w'.sender.asked.size ∨ w'.sender.ending ≠ none) w := by
  have hgoes : ∀ w : Line (Candle α) (Polled α κ) τ,
      ¬ (calls < w.sender.asked.size ∨ w.sender.ending ≠ none) →
        w.sender.asked.size ≤ calls ∧ w.sender.ending = none := fun w hgoal =>
    ⟨Nat.le_of_not_lt fun hlt => hgoal (.inl hlt), by_contra fun hne => hgoal (.inr hne)⟩
  refine Line.inevitable_of_work hT (fun _ => True) (fun _ s => s.toDo calls)
    (fun _ _ _ _ => trivial) ?_ (fun _ => rfl) ?_ ?_ (fun _ _ _ _ _ => rfl) trivial
  · intro w _ hgoal
    simp [task, Task.plain, (hgoes w hgoal).2]
  · intro w _ hgoal hm
    exact dues_of_waiting hT (hgoes w hgoal).2 hm
  · intro w w' _ hgoal hs
    exact toDo_lt_of_move (move_of_senderMoves hs) (hgoes w hgoal).1

/-- A tick that is taken makes the one after it less late: the answer comes within the limit, and
the period is longer. -/
theorem late_fetch (hperiod : p.limit < p.period) {due now : Nat} {s : Polled α κ}
    (hphase : s.phase = .ticking due) (hdue : due ≤ now) :
    (s.fetch source p due now).late now < s.late now := by
  simp only [late, fetch, hphase, tickAfter]
  split <;> omega

theorem late_hand (hperiod : p.limit < p.period) (items : List (Candle α)) (now : Nat)
    (s : Polled α κ) : (s.hand p items now).late now = 0 := by
  cases items with
  | nil =>
      simp only [late, hand]
      omega
  | cons item rest => rfl

theorem late_answer (reply : Except (Failure α) (List (Candle α))) (nextTick now : Nat)
    (s : Polled α κ) : (s.answer reply nextTick).late now ≤ now + 1 - nextTick := by
  rcases reply with f | _ | ⟨item, rest⟩
  · exact Nat.zero_le _
  · exact Nat.le_refl _
  · exact Nat.le_refl _

/-- A move puts a call and leaves the feed less late, or it leaves it no later. -/
theorem late_of_move (hperiod : p.limit < p.period) (h : Move source p T stop w w')
    (hon : ∀ d ∈ (task source p).dues w.sender, w.sender.listens = false → w.now ≤ d) :
    w'.sender.late w'.now < w.sender.late w.now ∨
      w'.sender.late w'.now ≤ w.sender.late w.now ∧
        w'.sender.asked.size = w.sender.asked.size := by
  have hpending : ∀ {done limit reply nextTick},
      w.sender.phase = .fetching done limit reply nextTick → w.now ≤ min done limit :=
    fun hphase => hon _ (by rw [dues_fetching hphase]; exact List.mem_singleton_self _)
      (by rw [listens, hphase])
  cases h with
  | @seed done reply _ _ =>
      refine .inr ⟨?_, congrArg Array.size (asked_seed ..)⟩
      cases reply with
      | error f => exact Nat.zero_le _
      | ok items => exact Nat.le_trans (Nat.le_of_eq (late_hand hperiod ..)) (Nat.zero_le _)
  | leave _ _ => exact .inr ⟨Nat.zero_le _, rfl⟩
  | hand _ _ =>
      exact .inr ⟨Nat.le_trans (Nat.le_of_eq (late_hand hperiod ..)) (Nat.zero_le _),
        congrArg Array.size (asked_hand ..)⟩
  | tick hphase hdue => exact .inl (late_fetch hperiod hphase hdue)
  | @answer done limit nextTick reply hphase hin hdone =>
      refine .inr ⟨Nat.le_trans (late_answer ..) ?_, congrArg Array.size (asked_answer ..)⟩
      have hnow := hpending hphase
      simp only [late, hphase]
      omega
  | @giveUp done limit nextTick reply hphase hlate hlimit =>
      refine .inr ⟨?_, rfl⟩
      have hnow := hpending hphase
      simp only [late, Polled.giveUp, hphase]
      omega
  | handLatest hphase _ => exact .inr ⟨by simp [late, hphase], rfl⟩

end Moves

section Stops

variable {script : Script α} {p : Polling} {T : Task α (Candle α) τ} {r : τ} {rank : τ → Nat}
  {w : Line (Candle α) (Polled α Nat) τ}

/-- A feed that does not listen waits for a time that is not over. -/
theorem Pulls.now_le {out : List (Candle α)} {call asked now : Nat} {s : Polled α Nat}
    (h : Pulls script p now out s call asked) (hbusy : s.listens = false) {d : Nat}
    (hd : d ∈ (task script.source p).dues s) : now ≤ d := by
  have hstage := h.stage
  cases hphase : s.phase with
  | seeding done reply =>
      rw [hphase] at hstage
      rw [dues_seeding hphase, List.mem_singleton] at hd
      rw [hd]
      exact hstage.2.2.2.2
  | fetching done limit reply nextTick =>
      rw [hphase] at hstage
      rw [dues_fetching hphase, List.mem_singleton] at hd
      rw [hd]
      exact Nat.le_min.mpr hstage.2.2.2.2.2
  | left result => simp [Task.dues, task, Task.plain, branches, hphase] at hd
  | _ => simp [listens, hphase] at hbusy

theorem late_of_busy {s : Polled α κ} (h : s.listens = false) (now now' : Nat) :
    s.late now = s.late now' := by
  unfold listens at h
  unfold late
  cases hphase : s.phase <;> simp [hphase] at h ⊢

/-- A stop that stays ends the feed, if the period is longer than the limit for an answer. -/
theorem ends_when_stopped (hT : T.ComesBack rank) (hperiod : p.limit < p.period)
    (hreach : Line.Reaches (task script.source p) T (.start (begin script.source p 0 0) r) w)
    (hstop : ∀ v, Line.Reaches (task script.source p) T w v → T.stopsOther v.receiver = true) :
    Inevitable (Line.Next (task script.source p) T) (fun w' => w'.sender.ending ≠ none) w := by
  refine Line.inevitable_of_work hT (Line.Reaches (task script.source p) T w)
    (fun now s => toLex (s.late now, s.phase.toDo)) (fun _ _ => .tail) ?_ (fun _ => rfl) ?_ ?_ ?_
    .refl
  · intro v _ hgoal
    simp [task, Task.plain, Classical.not_not.mp hgoal]
  · intro v _ hgoal hm
    exact dues_of_waiting hT (Classical.not_not.mp hgoal) hm
  · intro v v' hv _ hs
    obtain ⟨out, hout⟩ := Line.delivers_of_reaches (hreach.trans hv)
    obtain ⟨call, asked, hpulls⟩ := Pulls.of_delivers hout
    have hmove := move_of_senderMoves hs
    rw [Prod.Lex.toLex_lt_toLex]
    rcases late_of_move hperiod hmove fun d hd hbusy => hpulls.now_le hbusy hd with
      hless | ⟨hle, hsize⟩
    · exact .inl hless
    · rcases toDo_of_move hmove with ⟨-, htodo⟩ | ⟨hmore, -⟩
      · exact (Nat.lt_or_eq_of_le hle).imp_right fun heq => ⟨heq, htodo⟩
      · omega
  · intro v due hv _ hm
    -- it could leave if it listened, and time would not pass
    have hbusy : v.sender.listens = false := by
      refine Bool.eq_false_iff.mpr fun hlistens => ?_
      exact Line.moves_of_sender (hstop v hv) (leave_mem_senderMoves hlistens) hm
    rw [late_of_busy hbusy due v.now]

/-- A stop that stays, and comes outside a call, ends the feed in peace, unless it takes a tick at
that very time. -/
theorem leaves_when_stopped (hT : T.ComesBack rank) (hlistens : w.sender.listens = true)
    (hstop : ∀ v, Line.Reaches (task script.source p) T w v → T.stopsOther v.receiver = true) :
    Inevitable (Line.Next (task script.source p) T)
      (fun w' => w'.sender.ending = some (.returned (.ok ())) ∨
        ∃ q, w'.sender.asked[w.sender.asked.size]? = some (w.now, q)) w := by
  refine .along (fun v => Line.Reaches (task script.source p) T w v ∧
      Stopped w.now w.sender.asked.size v) (calls_on hT script.source p w.sender.asked.size w)
    ⟨.refl, .leaving rfl hlistens rfl⟩ ?_ ?_
  · rintro v v' ⟨hv, hstopped⟩ - hnext
    exact ⟨hv.tail hnext, hstopped.next (hstop v hv) hnext⟩
  · rintro v ⟨-, hstopped⟩ hmore
    cases hstopped with
    | left hended => exact .inl hended
    | ticked q hq => exact .inr ⟨q, hq⟩
    | leaving _ hstill hsize =>
        rcases hmore with hcall | hended
        · omega
        · exact absurd (ending_of_listens hstill) hended

/-- Once the receiver is gone for good, a call that yields a bar is the last one. -/
theorem ends_when_gone (hT : T.ComesBack rank) {out : List (Candle α)}
    (hrun : Line.Delivers (task script.source p) T (.start (begin script.source p 0 0) r) out w)
    (hgone : ∀ v, Line.Reaches (task script.source p) T w v → T.holdsLine v.receiver = false)
    {call : Nat} (hcall : w.sender.asked.size ≤ call) (hyield : script.yieldOf p call ≠ []) :
    Inevitable (Line.Next (task script.source p) T) (fun w' => w'.sender.ending ≠ none) w := by
  obtain ⟨last, hlast, -, hout⟩ := (delivery script p T r).delivered out w hrun
  refine .along (fun v => Line.Reaches (task script.source p) T w v ∧
      Line.Delivers (task script.source p) T (.start (begin script.source p 0 0) r) out v)
    (calls_on hT script.source p (call + 1) w) ⟨.refl, hrun⟩ ?_ ?_
  · rintro v v' ⟨hv, hdelivers⟩ - hnext
    have hstep := hdelivers.step hnext
    rw [Line.put_of_gone (hgone v hv) hnext, List.append_nil] at hstep
    exact ⟨hv.tail hnext, hstep⟩
  · rintro v ⟨-, hdelivers⟩ (hmore | hended)
    · obtain ⟨last', hlast', hout', -⟩ := (delivery script p T r).delivered out v hdelivers
      -- all that the call yields would have been put on the line
      have hthere : script.yield p (call + 1) <+: script.yield p (last + 1) :=
        ((Script.prefix_yield_of_le (by omega)).trans hout').trans hout
      have hearlier : script.yield p (last + 1) <+: script.yield p call :=
        Script.prefix_yield_of_le (by omega)
      have hlength := (hthere.trans hearlier).length_le
      rw [Script.yield_succ, List.length_append] at hlength
      have hpos := List.length_pos_iff.mpr hyield
      omega
    · exact hended

end Stops

theorem ending_cases {s : Polled α κ} (h : s.ending ≠ none) :
    s.ending = some (.returned (.ok ())) ∨ ∃ f, s.ending = some (.returned (.error f)) := by
  cases hphase : s.phase with
  | left result =>
      rcases result with f | ⟨⟨⟩⟩
      · exact .inr ⟨f, by rw [ending, hphase]⟩
      · exact .inl (by rw [ending, hphase])
  | _ => exact absurd (by rw [ending, hphase]) h

section Consumers

variable (script : Script α) (p : Polling) (c : Consumer (Candle α))

abbrev opening : Line (Candle α) (Polled α Nat) (Consuming (Candle α)) :=
  .start (begin script.source p 0 0) c.begin

abbrev Reached (w : Line (Candle α) (Polled α Nat) (Consuming (Candle α))) : Prop :=
  Line.Reaches (task script.source p) (c.task α) (opening script p c) w

/-- What every interleaving comes to from a state. -/
abbrev Comes (goal : Line (Candle α) (Polled α Nat) (Consuming (Candle α)) → Prop)
    (w : Line (Candle α) (Polled α Nat) (Consuming (Candle α))) : Prop :=
  Inevitable (Line.Next (task script.source p) (c.task α)) goal w

/-- The bars that were put on the line: those the consumer has taken, and one that waits. -/
def handedOver (w : Line (Candle α) (Polled α Nat) (Consuming (Candle α))) : List (Candle α) :=
  w.receiver.taken.map Prod.snd ++ w.slot.toList

/-- How far a polled feed gets with a consumer, from every state that it can come to. -/
structure Progress : Prop where
  handed : ∀ out w, Line.Delivers (task script.source p) (c.task α) (opening script p c) out w →
    handedOver w = out
  /-- Call after call is put until the feed has ended. -/
  callsOn : ∀ w, Reached script p c w → ∀ calls,
    Comes script p c (fun w' => calls < w'.sender.asked.size ∨ w'.sender.ending ≠ none) w
  /-- As long as no call fails in time, and unless the consumer parts with the feed, every call is
  put, and all that the calls before it yield is handed over. -/
  handsOver : ∀ w, Reached script p c w → ∀ calls,
    (∀ i < calls, ∀ f, ¬ script.FailsWith p i f) →
      Comes script p c (fun w' => w'.receiver.Parted ∨
        calls < w'.sender.asked.size ∧ script.yield p calls <+: handedOver w') w
  /-- With the first failure that comes in time the feed fails, all that was due before handed
  over, unless the consumer parts with it. -/
  fails : ∀ w, Reached script p c w → ∀ call f, script.FailsWith p call f →
    (∀ i < call, ∀ f', ¬ script.FailsWith p i f') →
      Comes script p c (fun w' => w'.receiver.Parted ∨
        w'.sender.ending = some (.returned (.error (f.within (contextOf call)))) ∧
          handedOver w' = script.yield p call) w
  /-- Stopped outside a call the feed ends in peace, unless it takes a tick at that very time. -/
  leaves : ∀ w, Reached script p c w → w.receiver.stopped = true → w.sender.listens = true →
    Comes script p c (fun w' => w'.sender.ending = some (.returned (.ok ())) ∨
      ∃ q, w'.sender.asked[w.sender.asked.size]? = some (w.now, q)) w
  /-- Stopped at any time it ends, if the period is longer than the limit for an answer. -/
  halts : p.limit < p.period → ∀ w, Reached script p c w → w.receiver.stopped = true →
    Comes script p c (fun w' => w'.sender.ending ≠ none) w
  /-- Once the consumer has hung up, a later call that yields a bar is the last one. -/
  hangsUp : ∀ w, Reached script p c w → w.receiver.hungUp = true → ∀ call,
    w.sender.asked.size ≤ call → script.yieldOf p call ≠ [] →
      Comes script p c (fun w' => w'.sender.ending ≠ none) w

variable {script p c} {w : Line (Candle α) (Polled α Nat) (Consuming (Candle α))}

/-- A feed has ended in peace only where the consumer has parted with it. -/
theorem parted_of_peaceful (h : Reached script p c w)
    (hended : w.sender.ending = some (.returned (.ok ()))) : w.receiver.Parted := by
  induction h with
  | refl => cases hended
  | @tail v v' hv hnext ih =>
      cases hgoes : v.sender.ending with
      | none =>
          obtain ⟨-, hstop | hhung⟩ := stopped_of_next hnext hgoes hended
          · exact .inl (Consumer.stopped_of_next hnext hstop)
          · exact .inr (Consumer.hungUp_of_next hnext (by simpa [Consumer.task] using hhung))
      | some e =>
          have hgone : (task script.source p).hasEnded v.sender = true :=
            Line.hasEnded_of_ending hgoes
          rw [Line.next_sender (task_settles script.source p) hgone hnext] at hended
          exact Consumer.parted_of_next hnext (ih hended)

theorem hands_over (h : Reached script p c w) (calls : Nat)
    (hcalm : ∀ i < calls, ∀ f, ¬ script.FailsWith p i f) :
    Comes script p c (fun w' => w'.receiver.Parted ∨
      calls < w'.sender.asked.size ∧ script.yield p calls <+: handedOver w') w := by
  refine .along (Reached script p c) (calls_on (c.comesBack α) script.source p calls w) h
    (fun _ _ hv _ => hv.tail) fun v hv hmore => ?_
  obtain ⟨out, hout⟩ := Line.delivers_of_reaches hv
  have hsofar := Consumer.taken_of_delivers hout
  obtain ⟨call, hsize, hyield, -⟩ := (delivery script p (c.task α) c.begin).delivered out v hout
  have hcalled : calls < v.sender.asked.size →
      calls < v.sender.asked.size ∧ script.yield p calls <+: handedOver v := fun hlt => by
    refine ⟨hlt, ?_⟩
    rw [handedOver, hsofar]
    exact (Script.prefix_yield_of_le (by omega)).trans hyield
  rcases hmore with hlt | hended
  · exact .inr (hcalled hlt)
  · rcases ending_cases hended with hok | ⟨f, herror⟩
    · exact .inl (parted_of_peaceful hv hok)
    · obtain ⟨call', f', hsize', hfails, -⟩ :=
        (delivery script p (c.task α) c.begin).failed out v f hout herror
      refine .inr (hcalled (Nat.lt_of_not_le fun hle => ?_))
      exact hcalm call' (by omega) f' hfails

theorem fails_first (h : Reached script p c w) {call : Nat} {f : Failure α}
    (hfails : script.FailsWith p call f) (hfirst : ∀ i < call, ∀ f', ¬ script.FailsWith p i f') :
    Comes script p c (fun w' => w'.receiver.Parted ∨
      w'.sender.ending = some (.returned (.error (f.within (contextOf call)))) ∧
        handedOver w' = script.yield p call) w := by
  refine .along (Reached script p c) (calls_on (c.comesBack α) script.source p (call + 1) w) h
    (fun _ _ hv _ => hv.tail) fun v hv hmore => ?_
  obtain ⟨out, hout⟩ := Line.delivers_of_reaches hv
  obtain ⟨last, asked, hpulls⟩ := Pulls.of_delivers hout
  have hlast : last ≤ call := Nat.le_of_not_lt fun hlt => hpulls.calm call hlt f hfails
  have hsize := hpulls.size
  rcases hmore with hlt | hended
  · omega
  · rcases ending_cases hended with hok | ⟨f', herror⟩
    · exact .inl (parted_of_peaceful hv hok)
    · obtain ⟨f'', hfails', rfl, hyield⟩ := hpulls.failed herror
      have hcall : last = call :=
        Nat.le_antisymm hlast (Nat.le_of_not_lt fun hlt => hfirst last hlt f'' hfails')
      subst hcall
      cases hfails.reply.symm.trans hfails'.reply
      exact .inr ⟨herror, (Consumer.taken_of_delivers hout).trans hyield⟩

/-- For every script, and every consumer. -/
theorem progress (script : Script α) (p : Polling) (c : Consumer (Candle α)) :
    Progress script p c where
  handed _ _ hrun := Consumer.taken_of_delivers hrun
  callsOn w _ calls := calls_on (c.comesBack α) script.source p calls w
  handsOver _ h calls hcalm := hands_over h calls hcalm
  fails _ h _ _ hfails hfirst := fails_first h hfails hfirst
  leaves _ _ hstopped hlistens := leaves_when_stopped (c.comesBack α) hlistens
    fun _ hv => Consumer.stopped_of_reaches hv hstopped
  halts hperiod _ h hstopped := ends_when_stopped (c.comesBack α) hperiod h
    fun _ hv => Consumer.stopped_of_reaches hv hstopped
  hangsUp w h hhung call hcall hyield := by
    obtain ⟨out, hout⟩ := Line.delivers_of_reaches h
    refine ends_when_gone (c.comesBack α) hout (fun v hv => ?_) hcall hyield
    simp [Consumer.task, Consumer.hungUp_of_reaches hv hhung]

/-- What a polled feed puts on the line, whatever the task at the other end does, and how far it
gets with a consumer of whatever pace, that stops it or hangs up at whatever time. -/
theorem delivers_script (script : Script α) (p : Polling) :
    (∀ (τ : Type) (T : Task α (Candle α) τ) (r : τ),
      Delivery script p T (.start (begin script.source p 0 0) r)) ∧
    ∀ c : Consumer (Candle α), Progress script p c :=
  ⟨fun _ T r => delivery script p T r, progress script p⟩

end Consumers

section Troubled

def bar (close : Nat) : Candle Nat :=
  ⟨"", "bnb", "BNBUSDT", "1h", .epoch, close, close, .epoch, close, close, 0⟩

def reset : Failure Nat := ⟨[], .outside .transport "reset" []⟩

/-- A history of two bars, a poll with two, an empty one, a failure that comes too late and one
that comes in time. -/
def troubled : Script Nat
  | 0 => (70, .ok [bar 1, bar 2])
  | 1 => (3, .ok [bar 3, bar 4])
  | 2 => (1, .ok [])
  | 3 => (9, .error reset)
  | 4 => (2, .error reset)
  | _ => (1, .ok [bar 5])

/-- A poll every ten milliseconds, to be answered in five. -/
def brisk : Polling := ⟨⟨"BNBUSDT", "bnb", "1h", 2⟩, 10, 5⟩

def slow : Consumer (Candle Nat) := ⟨fun _ => 25, none, none⟩

def afterTrouble : Line (Candle Nat) (Polled Nat Nat) (Consuming (Candle Nat)) :=
  Line.runUntil (task troubled.source brisk) (slow.task Nat) (fun w => w.sender.ending.isSome) none
    60 (opening troubled brisk slow)

/-- Whatever the interleaving, the fourth poll fails the feed, which has handed over the history
and the first bar of the first poll by then. In one of them the second poll waits until the slow
consumer has made room, the third is given up at 105, and the feed fails at 112. -/
theorem fourth_poll_fails_feed :
    Comes troubled brisk slow (fun w =>
        w.sender.ending = some (.returned (.error (reset.within latestContext))) ∧
          handedOver w = [bar 1, bar 2, bar 3]) (opening troubled brisk slow) ∧
      Reached troubled brisk slow afterTrouble ∧
      afterTrouble.sender.ending = some (.returned (.error (reset.within latestContext))) ∧
      afterTrouble.now = 112 ∧
      afterTrouble.sender.asked.toList.map Prod.fst = [0, 80, 95, 100, 110] ∧
      afterTrouble.receiver.taken = [(70, bar 1), (95, bar 2)] ∧
      afterTrouble.slot = some (bar 3) := by
  have hprogress := (delivers_script troubled brisk).2 slow
  have hfirst : ∀ i < 4, ∀ f, ¬ troubled.FailsWith brisk i f := by
    intro i hi f hfails
    match i, hfails with
    | 0, hfails => cases hfails.reply
    | 1, hfails => cases hfails.reply
    | 2, hfails => cases hfails.reply
    | 3, hfails =>
        rcases hfails.inTime with hzero | hin
        · cases hzero
        · exact absurd hin (by decide)
  refine ⟨?_, Line.reaches_runUntil _ _ _ _, rfl, rfl, rfl, rfl, rfl⟩
  refine .along (Reached troubled brisk slow)
    (hprogress.fails _ .refl 4 reset ⟨.inr (by decide), rfl⟩ hfirst) .refl (fun _ _ hv _ => hv.tail)
    fun v hv hgoal => ?_
  rcases hgoal with hparted | hdone
  · obtain ⟨hstopped, hhung⟩ := Consumer.stays_of_reaches rfl rfl hv
    rcases hparted with hstop | hhang
    · rw [hstopped] at hstop
      cases hstop
    · rw [hhung] at hhang
      cases hhang
  · exact hdone

end Troubled

end Polled

end Crossover

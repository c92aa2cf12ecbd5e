import Crossover.Proofs.Session.Consuming

/-!
# What a polled feed delivers

A source answers off a script: how long each call takes, and what it comes to. Whatever the task
at the other end does, and whenever it stops the feed or hangs up, the feed has put on the line
the history and then, poll by poll, the first bar of each answer that came in time; of the last
call it may still owe what it yields. Calls do not overlap. The feed fails exactly with the
failure of a call that came in time, and ends in peace only when it is stopped or refused.
-/

namespace Crossover

variable {α γ κ σ τ : Type}

/-- How long each call takes, and what it comes to; call 0 is for the history. -/
abbrev Script (α : Type) : Type := Nat → Nat × Except (Failure α) (List (Candle α))

/-- A source that answers off a script. Its state is the number of the next call. -/
def Script.source (script : Script α) : Source α Nat :=
  fun _ call => (script call, call + 1)

namespace Polled

/-- Whether a stop is seen: outside a call, and before the feed has left. -/
def listens (s : Polled α κ) : Bool :=
  match s.phase with
  | .handing _ _ | .ticking _ | .handingLatest _ _ => true
  | .seeding _ _ | .fetching _ _ _ _ | .left _ => false

theorem dues_seeding {source : Source α κ} {p : Polling} {s : Polled α κ} {done : Nat}
    {reply : Except (Failure α) (List (Candle α))} (h : s.phase = .seeding done reply) :
    (task source p).dues s = [done] := by
  simp [Task.dues, task, Task.plain, branches, h]

theorem dues_ticking {source : Source α κ} {p : Polling} {s : Polled α κ} {due : Nat}
    (h : s.phase = .ticking due) : (task source p).dues s = [due] := by
  simp [Task.dues, task, Task.plain, branches, h]

theorem dues_fetching {source : Source α κ} {p : Polling} {s : Polled α κ}
    {done limit nextTick : Nat} {reply : Except (Failure α) (List (Candle α))}
    (h : s.phase = .fetching done limit reply nextTick) :
    (task source p).dues s = [min done limit] := by
  by_cases hin : done ≤ limit
  · simp [Task.dues, task, Task.plain, branches, h, hin]
  · simp [Task.dues, task, Task.plain, branches, h, hin, Nat.le_of_not_le hin]

section Moves

variable {source : Source α κ} {p : Polling} {T : Task α (Candle α) τ} {stop : Bool}
  {l l' : Line (Candle α) (Polled α κ) τ}

/-- All moves of a polled feed. -/
inductive Move (source : Source α κ) (p : Polling) (T : Task α (Candle α) τ) (stop : Bool)
    (l : Line (Candle α) (Polled α κ) τ) : Line (Candle α) (Polled α κ) τ → Prop
  | seed {done : Nat} {reply : Except (Failure α) (List (Candle α))} :
      l.sender.phase = .seeding done reply → done ≤ l.now →
      Move source p T stop l { l with sender := l.sender.seed p reply l.now }
  | leave : l.sender.listens = true → stop = true ∨ T.holdsLine l.receiver = false →
      Move source p T stop l { l with sender := l.sender.leave (.ok ()) }
  | hand {item : Candle α} {rest : List (Candle α)} :
      l.sender.phase = .handing item rest → l.slot = none →
      Move source p T stop l
        { l with slot := some item, sender := l.sender.hand p rest l.now }
  | tick {due : Nat} : l.sender.phase = .ticking due → due ≤ l.now →
      Move source p T stop l { l with sender := l.sender.fetch source p due l.now }
  | answer {done limit nextTick : Nat} {reply : Except (Failure α) (List (Candle α))} :
      l.sender.phase = .fetching done limit reply nextTick → done ≤ limit → done ≤ l.now →
      Move source p T stop l { l with sender := l.sender.answer reply nextTick }
  | giveUp {done limit nextTick : Nat} {reply : Except (Failure α) (List (Candle α))} :
      l.sender.phase = .fetching done limit reply nextTick → limit < done → limit ≤ l.now →
      Move source p T stop l { l with sender := l.sender.giveUp p nextTick }
  | handLatest {item : Candle α} {nextTick : Nat} :
      l.sender.phase = .handingLatest item nextTick → l.slot = none →
      Move source p T stop l
        { l with slot := some item, sender := { l.sender with phase := .ticking nextTick } }

theorem move_of_senderMoves (h : l' ∈ l.senderMoves (task source p) T stop) :
    Move source p T stop l l' := by
  obtain ⟨b, hb, hmove⟩ := List.mem_filterMap.mp h
  cases hphase : l.sender.phase with
  | seeding done reply =>
      simp only [task, Task.plain, branches, hphase, List.mem_singleton] at hb
      subst hb
      obtain ⟨hdue, heq⟩ := Option.ite_none_right_eq_some.mp hmove
      cases heq
      exact .seed hphase hdue
  | handing item rest =>
      have hlistens : l.sender.listens = true := by rw [listens, hphase]
      simp only [task, Task.plain, branches, hphase, List.mem_cons, List.not_mem_nil,
        or_false] at hb
      rcases hb with rfl | rfl
      · obtain ⟨hstop, heq⟩ := Option.ite_none_right_eq_some.mp hmove
        cases heq
        exact .leave hlistens (.inl hstop)
      · rcases Line.onSend_cases hmove with ⟨hT, rfl⟩ | ⟨hslot, rfl⟩
        · exact .leave hlistens (.inr hT)
        · exact .hand hphase hslot
  | ticking due =>
      have hlistens : l.sender.listens = true := by rw [listens, hphase]
      simp only [task, Task.plain, branches, hphase, List.mem_cons, List.not_mem_nil,
        or_false] at hb
      rcases hb with rfl | rfl
      · obtain ⟨hstop, heq⟩ := Option.ite_none_right_eq_some.mp hmove
        cases heq
        exact .leave hlistens (.inl hstop)
      · obtain ⟨hdue, heq⟩ := Option.ite_none_right_eq_some.mp hmove
        cases heq
        exact .tick hphase hdue
  | fetching done limit reply nextTick =>
      by_cases hin : done ≤ limit
      · simp only [task, Task.plain, branches, hphase, if_pos hin, List.mem_singleton] at hb
        subst hb
        obtain ⟨hdue, heq⟩ := Option.ite_none_right_eq_some.mp hmove
        cases heq
        exact .answer hphase hin hdue
      · simp only [task, Task.plain, branches, hphase, if_neg hin, List.mem_singleton] at hb
        subst hb
        obtain ⟨hdue, heq⟩ := Option.ite_none_right_eq_some.mp hmove
        cases heq
        exact .giveUp hphase (Nat.lt_of_not_le hin) hdue
  | handingLatest item nextTick =>
      have hlistens : l.sender.listens = true := by rw [listens, hphase]
      simp only [task, Task.plain, branches, hphase, List.mem_cons, List.not_mem_nil,
        or_false] at hb
      rcases hb with rfl | rfl
      · obtain ⟨hstop, heq⟩ := Option.ite_none_right_eq_some.mp hmove
        cases heq
        exact .leave hlistens (.inl hstop)
      · rcases Line.onSend_cases hmove with ⟨hT, rfl⟩ | ⟨hslot, rfl⟩
        · exact .leave hlistens (.inr hT)
        · exact .handLatest hphase hslot
  | left result => simp [task, Task.plain, branches, hphase] at hb

theorem leave_mem_senderMoves (h : l.sender.listens = true) :
    { l with sender := l.sender.leave (.ok ()) } ∈ l.senderMoves (task source p) T true := by
  refine List.mem_filterMap.mpr ⟨.onStop fun _ => l.sender.leave (.ok ()), ?_, rfl⟩
  cases hphase : l.sender.phase with
  | handing => simp [task, Task.plain, branches, hphase]
  | ticking => simp [task, Task.plain, branches, hphase]
  | handingLatest => simp [task, Task.plain, branches, hphase]
  | _ => simp [listens, hphase] at h

theorem moves_of_handing {item : Candle α} {rest : List (Candle α)}
    (hphase : l.sender.phase = .handing item rest)
    (hfree : l.slot = none ∨ T.holdsLine l.receiver = false) :
    Line.moves (task source p) T l ≠ [] := by
  have hb : .onSend item (fun now => l.sender.hand p rest now)
      (fun _ => l.sender.leave (.ok ())) ∈ (task source p).branches l.sender := by
    simp [task, Task.plain, branches, hphase]
  exact Line.moves_of_onSend hb hfree

theorem moves_of_handingLatest {item : Candle α} {nextTick : Nat}
    (hphase : l.sender.phase = .handingLatest item nextTick)
    (hfree : l.slot = none ∨ T.holdsLine l.receiver = false) :
    Line.moves (task source p) T l ≠ [] := by
  have hb : .onSend item (fun _ => { l.sender with phase := .ticking nextTick })
      (fun _ => l.sender.leave (.ok ())) ∈ (task source p).branches l.sender := by
    simp [task, Task.plain, branches, hphase]
  exact Line.moves_of_onSend hb hfree

/-- A feed that has not left and need not wait for the slot moves, or waits for a time. -/
theorem exists_due (hfree : l.slot = none ∨ T.holdsLine l.receiver = false)
    (hgoes : l.sender.ending = none) (hm : Line.moves (task source p) T l = []) :
    ∃ d, d ∈ Line.dues (task source p) T l := by
  have hdue : ∀ {d : Nat}, (task source p).dues l.sender = [d] →
      ∃ d, d ∈ Line.dues (task source p) T l := fun {d} h =>
    ⟨d, List.mem_append_left _ (by rw [h]; exact List.mem_singleton_self d)⟩
  cases hphase : l.sender.phase with
  | seeding => exact hdue (dues_seeding hphase)
  | handing => exact absurd hm (moves_of_handing hphase hfree)
  | ticking => exact hdue (dues_ticking hphase)
  | fetching => exact hdue (dues_fetching hphase)
  | handingLatest => exact absurd hm (moves_of_handingLatest hphase hfree)
  | left => simp [ending, hphase] at hgoes

end Moves

end Polled

namespace Script

variable (script : Script α) (p : Polling)

/-- The bars that a call yields: the history, or the first bar of an answer that comes in
time. -/
def yieldOf : Nat → List (Candle α)
  | 0 => (script 0).2.toOption.getD []
  | call + 1 =>
    if (script (call + 1)).1 ≤ p.limit then ((script (call + 1)).2.toOption.getD []).take 1
    else []

def yield (calls : Nat) : List (Candle α) :=
  (List.range calls).flatMap (script.yieldOf p)

/-- When a call that was put at a time is answered or given up. There is no limit for the
history. -/
def settled (call asked : Nat) : Nat :=
  asked + if call = 0 then (script call).1 else min (script call).1 p.limit

/-- The answer to a call comes in time and is a failure. -/
structure FailsWith (call : Nat) (f : Failure α) : Prop where
  inTime : call = 0 ∨ (script call).1 ≤ p.limit
  reply : (script call).2 = .error f

variable {script p}

theorem yield_succ (calls : Nat) :
    script.yield p (calls + 1) = script.yield p calls ++ script.yieldOf p calls := by
  simp [yield, List.range_succ, List.flatMap_append]

theorem prefix_yield (calls : Nat) : script.yield p calls <+: script.yield p (calls + 1) :=
  ⟨_, (yield_succ calls).symm⟩

theorem prefix_yield_of_le {calls calls' : Nat} (h : calls ≤ calls') :
    script.yield p calls <+: script.yield p calls' := by
  induction h with
  | refl => exact List.prefix_rfl
  | step _ ih => exact ih.trans (prefix_yield _)

theorem yieldOf_zero {items : List (Candle α)} (h : (script 0).2 = .ok items) :
    script.yieldOf p 0 = items := by
  rw [yieldOf, h]
  rfl

theorem yieldOf_inTime {call : Nat} {items : List (Candle α)} (hcall : call ≠ 0)
    (hin : (script call).1 ≤ p.limit) (h : (script call).2 = .ok items) :
    script.yieldOf p call = items.take 1 := by
  obtain ⟨k, rfl⟩ := Nat.exists_eq_succ_of_ne_zero hcall
  rw [yieldOf, if_pos hin, h]
  rfl

theorem yieldOf_late {call : Nat} (hcall : call ≠ 0) (hlate : p.limit < (script call).1) :
    script.yieldOf p call = [] := by
  obtain ⟨k, rfl⟩ := Nat.exists_eq_succ_of_ne_zero hcall
  rw [yieldOf, if_neg (Nat.not_le_of_lt hlate)]

theorem not_failsWith_of_ok {call : Nat} {items : List (Candle α)}
    (h : (script call).2 = .ok items) (f : Failure α) : ¬ script.FailsWith p call f := by
  intro hfails
  cases h.symm.trans hfails.reply

theorem not_failsWith_of_late {call : Nat} (hcall : call ≠ 0) (hlate : p.limit < (script call).1)
    (f : Failure α) : ¬ script.FailsWith p call f := by
  rintro ⟨hzero | hin, -⟩
  · exact hcall hzero
  · exact absurd hin (Nat.not_le_of_lt hlate)

end Script

namespace Polled

def contextOf (call : Nat) : String :=
  if call = 0 then seedContext else latestContext

/-- A call is over and has not failed the feed. -/
structure Over (script : Script α) (p : Polling) (now call asked : Nat) : Prop where
  settled : script.settled p call asked ≤ now
  calm : ∀ f, ¬ script.FailsWith p call f

/-- What each phase tells of the last call, the time it was put, and the bars handed over. -/
def Stage (script : Script α) (p : Polling) (now : Nat) (out : List (Candle α))
    (call asked : Nat) : Phase α → Prop
  | .seeding done reply =>
    call = 0 ∧ out = [] ∧ done = asked + (script 0).1 ∧
      reply = inContext seedContext (script 0).2 ∧ now ≤ done
  | .handing item rest =>
    call = 0 ∧ out ++ item :: rest = script.yield p 1 ∧ Over script p now call asked
  | .ticking _ => out = script.yield p (call + 1) ∧ Over script p now call asked
  | .fetching done limit reply _ =>
    call ≠ 0 ∧ out = script.yield p call ∧ done = asked + (script call).1 ∧
      limit = asked + p.limit ∧ reply = inContext latestContext (script call).2 ∧
      now ≤ done ∧ now ≤ limit
  | .handingLatest item _ =>
    out = script.yield p call ∧ out ++ [item] = script.yield p (call + 1) ∧
      Over script p now call asked
  | .left (.ok ()) =>
    script.yield p call <+: out ∧ out <+: script.yield p (call + 1) ∧ Over script p now call asked
  | .left (.error f) =>
    out = script.yield p call ∧ script.settled p call asked ≤ now ∧
      ∃ f', script.FailsWith p call f' ∧ f = f'.within (contextOf call)

/-- The invariant of a polled feed: the number of its last call and the time it was put, the
calls before it one after the other, and none of those failing. -/
structure Pulls (script : Script α) (p : Polling) (now : Nat) (out : List (Candle α))
    (s : Polled α Nat) (call asked : Nat) : Prop where
  source : s.source = call + 1
  size : s.asked.size = call + 1
  last : ∃ q, s.asked[call]? = some (asked, q)
  apart : ∀ (i t t' : Nat) (q q' : Question), s.asked[i]? = some (t, q) →
    s.asked[i + 1]? = some (t', q') → script.settled p i t ≤ t'
  calm : ∀ i < call, ∀ f, ¬ script.FailsWith p i f
  stage : Stage script p now out call asked s.phase

namespace Pulls

variable {script : Script α} {p : Polling} {now call asked : Nat} {out : List (Candle α)}
  {s : Polled α Nat}

theorem start (script : Script α) (p : Polling) :
    Pulls script p 0 [] (begin script.source p 0 0) 0 0 where
  source := rfl
  size := rfl
  last := ⟨_, rfl⟩
  apart i t t' q q' _ h := by simp [begin, Script.source] at h
  calm i hi := absurd hi (Nat.not_lt_zero i)
  stage := ⟨rfl, rfl, rfl, rfl, Nat.zero_le _⟩

/-- Whatever leaves the calls as they are need only be said of the phase. -/
theorem restage (h : Pulls script p now out s call asked) {now' : Nat} {out' : List (Candle α)}
    {s' : Polled α Nat} (hsource : s'.source = s.source) (hasked : s'.asked = s.asked)
    (hstage : Stage script p now' out' call asked s'.phase) :
    Pulls script p now' out' s' call asked where
  source := hsource.trans h.source
  size := hasked ▸ h.size
  last := hasked ▸ h.last
  apart := hasked ▸ h.apart
  calm := h.calm
  stage := hstage

theorem hand (h : Pulls script p now out s call asked) {items : List (Candle α)}
    (hcall : call = 0) (hout : out ++ items = script.yield p 1)
    (hover : Over script p now call asked) :
    Pulls script p now out (s.hand p items now) call asked := by
  cases items with
  | nil =>
      refine h.restage rfl rfl ⟨?_, hover⟩
      rw [hcall, ← hout, List.append_nil]
  | cons item rest => exact h.restage rfl rfl ⟨hcall, hout, hover⟩

theorem seed (h : Pulls script p now out s call asked) {done : Nat}
    {reply : Except (Failure α) (List (Candle α))} (hphase : s.phase = .seeding done reply)
    (hdone : done ≤ now) : Pulls script p now out (s.seed p reply now) call asked := by
  have hstage := h.stage
  rw [hphase] at hstage
  obtain ⟨rfl, rfl, rfl, rfl, -⟩ := hstage
  have hsettled : script.settled p 0 asked ≤ now := hdone
  cases hreply : (script 0).2 with
  | error f =>
      exact h.restage rfl rfl ⟨rfl, hsettled, f, ⟨.inl rfl, hreply⟩, rfl⟩
  | ok items =>
      have hseeded : Pulls script p now []
          { s with notes := s.notes.push (.seeded p.pair items.length) } 0 asked :=
        h.restage rfl rfl h.stage
      refine hseeded.hand rfl ?_ ⟨hsettled, Script.not_failsWith_of_ok hreply⟩
      rw [Script.yield_succ, Script.yieldOf_zero hreply]
      rfl

theorem tick (h : Pulls script p now out s call asked) {due : Nat}
    (hphase : s.phase = .ticking due) :
    Pulls script p now out (s.fetch script.source p due now) (call + 1) now := by
  have hstage := h.stage
  rw [hphase] at hstage
  obtain ⟨hout, hover⟩ := hstage
  have hsource := h.source
  have hsize := h.size
  obtain ⟨q, hlast⟩ := h.last
  exact
    { source := by simp [fetch, Script.source, hsource]
      size := by simp [fetch, hsize]
      last := ⟨latestQuestion p, by simp [fetch, ← hsize]⟩
      apart := fun i t t' q₁ q₂ hi hi' => by
        simp only [fetch, Array.getElem?_push] at hi hi'
        by_cases hnew : i + 1 = s.asked.size
        · rw [if_neg (by omega), show i = call by omega, hlast] at hi
          rw [if_pos hnew] at hi'
          obtain ⟨rfl, -⟩ := Prod.mk.inj (Option.some.inj hi)
          obtain ⟨rfl, -⟩ := Prod.mk.inj (Option.some.inj hi')
          rw [show i = call by omega]
          exact hover.settled
        · rw [if_neg hnew] at hi'
          obtain ⟨hbound, -⟩ := Array.getElem?_eq_some_iff.mp hi'
          rw [if_neg (by omega)] at hi
          exact h.apart i t t' q₁ q₂ hi hi'
      calm := fun i hi => by
        rcases Nat.lt_succ_iff_lt_or_eq.mp hi with hi | rfl
        · exact h.calm i hi
        · exact hover.calm
      stage := by
        simp only [fetch, Script.source, hsource]
        exact ⟨Nat.succ_ne_zero _, hout, rfl, rfl, rfl, Nat.le_add_right _ _,
          Nat.le_add_right _ _⟩ }

theorem answer (h : Pulls script p now out s call asked) {done limit nextTick : Nat}
    {reply : Except (Failure α) (List (Candle α))}
    (hphase : s.phase = .fetching done limit reply nextTick) (hin : done ≤ limit)
    (hdone : done ≤ now) : Pulls script p now out (s.answer reply nextTick) call asked := by
  have hstage := h.stage
  rw [hphase] at hstage
  obtain ⟨hcall, rfl, rfl, rfl, rfl, -⟩ := hstage
  have hinTime : (script call).1 ≤ p.limit := by omega
  have hsettled : script.settled p call asked ≤ now := by
    rw [Script.settled, if_neg hcall, Nat.min_eq_left hinTime]
    exact hdone
  cases hreply : (script call).2 with
  | error f =>
      refine h.restage rfl rfl ⟨rfl, hsettled, f, ⟨.inr hinTime, hreply⟩, ?_⟩
      rw [contextOf, if_neg hcall]
  | ok items =>
      have hover : Over script p now call asked :=
        ⟨hsettled, Script.not_failsWith_of_ok hreply⟩
      have hyield := Script.yieldOf_inTime hcall hinTime hreply
      cases items with
      | nil =>
          refine h.restage rfl rfl ⟨?_, hover⟩
          rw [Script.yield_succ, hyield, List.take_nil, List.append_nil]
      | cons item rest =>
          refine h.restage rfl rfl ⟨rfl, ?_, hover⟩
          rw [Script.yield_succ, hyield]
          rfl

theorem giveUp (h : Pulls script p now out s call asked) {done limit nextTick : Nat}
    {reply : Except (Failure α) (List (Candle α))}
    (hphase : s.phase = .fetching done limit reply nextTick) (hlate : limit < done)
    (hlimit : limit ≤ now) : Pulls script p now out (s.giveUp p nextTick) call asked := by
  have hstage := h.stage
  rw [hphase] at hstage
  obtain ⟨hcall, rfl, rfl, rfl, -, -⟩ := hstage
  have hlater : p.limit < (script call).1 := by omega
  have hsettled : script.settled p call asked ≤ now := by
    rw [Script.settled, if_neg hcall, Nat.min_eq_right (Nat.le_of_lt hlater)]
    exact hlimit
  refine h.restage rfl rfl ⟨?_, hsettled, Script.not_failsWith_of_late hcall hlater⟩
  rw [Script.yield_succ, Script.yieldOf_late hcall hlater, List.append_nil]

theorem handNext (h : Pulls script p now out s call asked) {item : Candle α}
    {rest : List (Candle α)} (hphase : s.phase = .handing item rest) :
    Pulls script p now (out ++ [item]) (s.hand p rest now) call asked := by
  have hstage := h.stage
  rw [hphase] at hstage
  obtain ⟨hcall, hout, hover⟩ := hstage
  cases rest with
  | nil =>
      refine h.restage rfl rfl ⟨?_, hover⟩
      rw [hcall, ← hout]
  | cons next rest =>
      refine h.restage rfl rfl ⟨hcall, ?_, hover⟩
      rw [List.append_assoc]
      exact hout

theorem handLatest (h : Pulls script p now out s call asked) {item : Candle α} {nextTick : Nat}
    (hphase : s.phase = .handingLatest item nextTick) :
    Pulls script p now (out ++ [item]) { s with phase := .ticking nextTick } call asked := by
  have hstage := h.stage
  rw [hphase] at hstage
  exact h.restage rfl rfl ⟨hstage.2.1, hstage.2.2⟩

theorem leave (h : Pulls script p now out s call asked) (hlistens : s.listens = true) :
    Pulls script p now out (s.leave (.ok ())) call asked := by
  have hstage := h.stage
  cases hphase : s.phase with
  | handing item rest =>
      rw [hphase] at hstage
      obtain ⟨rfl, hout, hover⟩ := hstage
      exact h.restage rfl rfl ⟨List.nil_prefix, ⟨_, hout⟩, hover⟩
  | ticking due =>
      rw [hphase] at hstage
      obtain ⟨rfl, hover⟩ := hstage
      exact h.restage rfl rfl ⟨Script.prefix_yield call, List.prefix_rfl, hover⟩
  | handingLatest item nextTick =>
      rw [hphase] at hstage
      obtain ⟨rfl, hout, hover⟩ := hstage
      exact h.restage rfl rfl ⟨List.prefix_rfl, ⟨_, hout⟩, hover⟩
  | _ => simp [listens, hphase] at hlistens

/-- The passing of time, up to the first time that is waited for. -/
theorem wait (h : Pulls script p now out s call asked) {due : Nat}
    (hleast : ∀ d ∈ (task script.source p).dues s, due ≤ d) (hlate : now ≤ due) :
    Pulls script p due out s call asked := by
  have hstage := h.stage
  have hover : Over script p now call asked → Over script p due call asked := fun ho =>
    ⟨Nat.le_trans ho.settled hlate, ho.calm⟩
  cases hphase : s.phase with
  | seeding done reply =>
      rw [hphase] at hstage
      obtain ⟨hcall, hout, hdone, hreply, -⟩ := hstage
      have hdue : due ≤ done := hleast done
        (by rw [dues_seeding hphase]; exact List.mem_singleton_self _)
      exact h.restage rfl rfl (by rw [hphase]; exact ⟨hcall, hout, hdone, hreply, hdue⟩)
  | handing item rest =>
      rw [hphase] at hstage
      exact h.restage rfl rfl (by rw [hphase]; exact ⟨hstage.1, hstage.2.1, hover hstage.2.2⟩)
  | ticking tick =>
      rw [hphase] at hstage
      exact h.restage rfl rfl (by rw [hphase]; exact ⟨hstage.1, hover hstage.2⟩)
  | fetching done limit reply nextTick =>
      rw [hphase] at hstage
      obtain ⟨hcall, hout, hdone, hlimit, hreply, -, -⟩ := hstage
      have hdue : due ≤ done ∧ due ≤ limit := Nat.le_min.mp
        (hleast _ (by rw [dues_fetching hphase]; exact List.mem_singleton_self _))
      exact h.restage rfl rfl
        (by rw [hphase]; exact ⟨hcall, hout, hdone, hlimit, hreply, hdue.1, hdue.2⟩)
  | handingLatest item nextTick =>
      rw [hphase] at hstage
      exact h.restage rfl rfl (by rw [hphase]; exact ⟨hstage.1, hstage.2.1, hover hstage.2.2⟩)
  | left result =>
      rw [hphase] at hstage
      cases result with
      | ok u =>
          exact h.restage rfl rfl
            (by rw [hphase]; exact ⟨hstage.1, hstage.2.1, hover hstage.2.2⟩)
      | error f =>
          exact h.restage rfl rfl
            (by rw [hphase]; exact ⟨hstage.1, Nat.le_trans hstage.2.1 hlate, hstage.2.2⟩)

variable {T : Task α (Candle α) τ} {stop : Bool}
  {w w' : Line (Candle α) (Polled α Nat) τ}

/-- What a move of the feed keeps. -/
theorem move (h : Pulls script p w.now out w.sender call asked)
    (hmove : Move script.source p T stop w w') :
    ∃ call' asked', Pulls script p w'.now (out ++ w.put w') w'.sender call' asked' := by
  cases hmove with
  | seed hphase hdone =>
      rw [Line.put_sender, List.append_nil]
      exact ⟨call, asked, h.seed hphase hdone⟩
  | leave hlistens _ =>
      rw [Line.put_sender, List.append_nil]
      exact ⟨call, asked, h.leave hlistens⟩
  | hand hphase hslot =>
      rw [Line.put_sent hslot]
      exact ⟨call, asked, h.handNext hphase⟩
  | tick hphase _ =>
      rw [Line.put_sender, List.append_nil]
      exact ⟨call + 1, w.now, h.tick hphase⟩
  | answer hphase hin hdone =>
      rw [Line.put_sender, List.append_nil]
      exact ⟨call, asked, h.answer hphase hin hdone⟩
  | giveUp hphase hlate hlimit =>
      rw [Line.put_sender, List.append_nil]
      exact ⟨call, asked, h.giveUp hphase hlate hlimit⟩
  | handLatest hphase hslot =>
      rw [Line.put_sent hslot]
      exact ⟨call, asked, h.handLatest hphase⟩

/-- What a step keeps. -/
theorem next (h : Pulls script p w.now out w.sender call asked)
    (hnext : Line.Next (task script.source p) T w w') :
    ∃ call' asked', Pulls script p w'.now (out ++ w.put w') w'.sender call' asked' := by
  rcases Line.next_cases hnext with hsender | hreceiver | ⟨due, -, rfl, -, hlate, hleast⟩
  · exact h.move (move_of_senderMoves hsender)
  · refine ⟨call, asked, ?_⟩
    rw [Line.put_of_receiverMoves hreceiver, List.append_nil, Line.now_of_receiverMoves hreceiver,
      Line.sender_of_receiverMoves hreceiver]
    exact h
  · refine ⟨call, asked, ?_⟩
    rw [Line.put_wait, List.append_nil]
    exact h.wait (fun d hd => hleast d (List.mem_append_left _ hd)) (Nat.le_of_lt hlate)

/-- What every run keeps. -/
theorem of_delivers {r : τ}
    (h : Line.Delivers (task script.source p) T (.start (begin script.source p 0 0) r) out w) :
    ∃ call asked, Pulls script p w.now out w.sender call asked := by
  induction h with
  | start => exact ⟨0, 0, start script p⟩
  | step _ hnext ih =>
      obtain ⟨call, asked, hpulls⟩ := ih
      exact hpulls.next hnext

end Pulls

/-- What a polled feed delivers, whatever the task at the other end does. -/
structure Delivery (script : Script α) (p : Polling) (T : Task α (Candle α) τ)
    (start : Line (Candle α) (Polled α Nat) τ) : Prop where
  /-- The bars put on the line are those that the calls yield, call by call; of the last call they
  may be the first ones only. -/
  delivered : ∀ out w, Line.Delivers (task script.source p) T start out w →
    ∃ call, w.sender.asked.size = call + 1 ∧ script.yield p call <+: out ∧
      out <+: script.yield p (call + 1)
  /-- Where everybody rests and the slot is empty, nothing is owed of a call that is over. -/
  complete : ∀ out w, Line.Delivers (task script.source p) T start out w →
    Line.moves (task script.source p) T w = [] → w.slot = none → w.sender.ending = none →
    ∃ call asked q, w.sender.asked.size = call + 1 ∧ w.sender.asked[call]? = some (asked, q) ∧
      (script.settled p call asked ≤ w.now ∧ out = script.yield p (call + 1) ∨
        w.now < script.settled p call asked ∧ out = script.yield p call)
  /-- A call is put only once the one before is answered or given up. -/
  apart : ∀ w, Line.Reaches (task script.source p) T start w → ∀ (i t t' : Nat)
    (q q' : Question), w.sender.asked[i]? = some (t, q) →
      w.sender.asked[i + 1]? = some (t', q') → script.settled p i t ≤ t'
  /-- A feed that has failed has done so with the failure of its last call, which came in time;
  all that was due before was handed over. -/
  failed : ∀ out w f, Line.Delivers (task script.source p) T start out w →
    w.sender.ending = some (.returned (.error f)) →
    ∃ call f', w.sender.asked.size = call + 1 ∧ script.FailsWith p call f' ∧
      f = f'.within (contextOf call) ∧ out = script.yield p call
  /-- A failure that comes in time fails the feed when it comes. -/
  fails : ∀ w, Line.Reaches (task script.source p) T start w → ∀ (call asked : Nat)
    (q : Question) (f : Failure α), w.sender.asked[call]? = some (asked, q) →
      script.FailsWith p call f → w.sender.asked.size = call + 1 ∧
        (asked + (script call).1 < w.now →
          w.sender.ending = some (.returned (.error (f.within (contextOf call)))))
  /-- The feed ends in peace only outside a call, and only when it is stopped or refused. -/
  peaceful : ∀ w w', Line.Reaches (task script.source p) T start w →
    Line.Next (task script.source p) T w w' → w.sender.ending = none →
    w'.sender.ending = some (.returned (.ok ())) →
      w.sender.listens = true ∧
        (T.stopsOther w.receiver = true ∨ T.holdsLine w.receiver = false)
  /-- Until it has left, the feed goes on, or waits for the slot. -/
  lively : ∀ w, Line.Reaches (task script.source p) T start w → w.slot = none →
    w.sender.ending = none → ∃ w', Line.Next (task script.source p) T w w'
  /-- Stopped for good outside a call, the feed leaves in peace before time passes, unless it
  takes a tick at that very time. -/
  stopped : ∀ w w', Line.Reaches (task script.source p) T start w → w.sender.listens = true →
    (∀ v, Line.Reaches (task script.source p) T w v → T.stopsOther v.receiver = true) →
    Line.Reaches (task script.source p) T w w' →
      w'.sender.ending = some (.returned (.ok ())) ∨
        (w'.now = w.now ∧ w'.sender.listens = true ∧
          { w' with sender := w'.sender.leave (.ok ()) } ∈
            Line.moves (task script.source p) T w') ∨
        ∃ q, w'.sender.asked[w.sender.asked.size]? = some (w.now, q)

namespace Pulls

variable {script : Script α} {p : Polling} {T : Task α (Candle α) τ} {call asked : Nat}
  {out : List (Candle α)} {w w' : Line (Candle α) (Polled α Nat) τ}

theorem delivered (h : Pulls script p w.now out w.sender call asked) :
    script.yield p call <+: out ∧ out <+: script.yield p (call + 1) := by
  have hstage := h.stage
  cases hphase : w.sender.phase with
  | seeding =>
      rw [hphase] at hstage
      obtain ⟨rfl, rfl, -⟩ := hstage
      exact ⟨List.prefix_rfl, List.nil_prefix⟩
  | handing =>
      rw [hphase] at hstage
      obtain ⟨rfl, hout, -⟩ := hstage
      exact ⟨List.nil_prefix, ⟨_, hout⟩⟩
  | ticking =>
      rw [hphase] at hstage
      obtain ⟨rfl, -⟩ := hstage
      exact ⟨Script.prefix_yield call, List.prefix_rfl⟩
  | fetching =>
      rw [hphase] at hstage
      obtain ⟨-, rfl, -⟩ := hstage
      exact ⟨List.prefix_rfl, Script.prefix_yield call⟩
  | handingLatest =>
      rw [hphase] at hstage
      obtain ⟨rfl, hout, -⟩ := hstage
      exact ⟨List.prefix_rfl, ⟨_, hout⟩⟩
  | left result =>
      rw [hphase] at hstage
      cases result with
      | ok u => exact ⟨hstage.1, hstage.2.1⟩
      | error f =>
          obtain ⟨rfl, -⟩ := hstage
          exact ⟨List.prefix_rfl, Script.prefix_yield call⟩

theorem complete (h : Pulls script p w.now out w.sender call asked)
    (hm : Line.moves (task script.source p) T w = []) (hslot : w.slot = none)
    (hgoes : w.sender.ending = none) :
    script.settled p call asked ≤ w.now ∧ out = script.yield p (call + 1) ∨
      w.now < script.settled p call asked ∧ out = script.yield p call := by
  have hstage := h.stage
  have hdue : ∀ d ∈ (task script.source p).dues w.sender, w.now < d := fun d hd =>
    Line.now_lt_of_no_moves hm (List.mem_append_left _ hd)
  cases hphase : w.sender.phase with
  | seeding done reply =>
      rw [hphase] at hstage
      obtain ⟨rfl, rfl, rfl, -⟩ := hstage
      refine .inr ⟨hdue (asked + (script 0).1) ?_, rfl⟩
      rw [dues_seeding hphase]
      exact List.mem_singleton_self _
  | handing => exact absurd hm (moves_of_handing hphase (.inl hslot))
  | ticking =>
      rw [hphase] at hstage
      exact .inl ⟨hstage.2.settled, hstage.1⟩
  | fetching done limit reply nextTick =>
      rw [hphase] at hstage
      obtain ⟨hcall, hout, rfl, rfl, -⟩ := hstage
      refine .inr ⟨hdue _ ?_, hout⟩
      rw [dues_fetching hphase, Script.settled, if_neg hcall, Nat.add_min_add_left]
      exact List.mem_singleton_self _
  | handingLatest => exact absurd hm (moves_of_handingLatest hphase (.inl hslot))
  | left => simp [ending, hphase] at hgoes

theorem failed (h : Pulls script p w.now out w.sender call asked) {f : Failure α}
    (hended : w.sender.ending = some (.returned (.error f))) :
    ∃ f', script.FailsWith p call f' ∧ f = f'.within (contextOf call) ∧
      out = script.yield p call := by
  have hstage := h.stage
  cases hphase : w.sender.phase with
  | left result =>
      simp only [ending, hphase, Option.some.injEq, Ending.returned.injEq] at hended
      rw [hphase, hended] at hstage
      obtain ⟨hout, -, f', hfails, hf⟩ := hstage
      exact ⟨f', hfails, hf, hout⟩
  | _ => simp [ending, hphase] at hended

theorem fails (h : Pulls script p w.now out w.sender call asked) {f : Failure α}
    (hfails : script.FailsWith p call f) (hlate : asked + (script call).1 < w.now) :
    w.sender.ending = some (.returned (.error (f.within (contextOf call)))) := by
  have hstage := h.stage
  cases hphase : w.sender.phase with
  | seeding =>
      rw [hphase] at hstage
      obtain ⟨rfl, -, rfl, -, hearly⟩ := hstage
      exact absurd hlate (Nat.not_lt_of_le hearly)
  | fetching =>
      rw [hphase] at hstage
      obtain ⟨-, -, rfl, -, -, hearly, -⟩ := hstage
      exact absurd hlate (Nat.not_lt_of_le hearly)
  | handing =>
      rw [hphase] at hstage
      exact absurd hfails (hstage.2.2.calm f)
  | ticking =>
      rw [hphase] at hstage
      exact absurd hfails (hstage.2.calm f)
  | handingLatest =>
      rw [hphase] at hstage
      exact absurd hfails (hstage.2.2.calm f)
  | left result =>
      rw [hphase] at hstage
      cases result with
      | ok u => exact absurd hfails (hstage.2.2.calm f)
      | error f' =>
          obtain ⟨-, -, f'', hfails', rfl⟩ := hstage
          cases hfails.reply.symm.trans hfails'.reply
          rw [ending, hphase]

/-- Only the last call can have failed the feed. -/
theorem eq_last (h : Pulls script p w.now out w.sender call asked) {i t : Nat} {q : Question}
    {f : Failure α} (hi : w.sender.asked[i]? = some (t, q)) (hfails : script.FailsWith p i f) :
    i = call ∧ t = asked := by
  obtain ⟨hbound, -⟩ := Array.getElem?_eq_some_iff.mp hi
  have hsize := h.size
  obtain ⟨q', hlast⟩ := h.last
  have hcall : i = call := by
    refine Nat.le_antisymm (by omega) (Nat.le_of_not_lt fun hlt => ?_)
    exact h.calm i hlt f hfails
  subst hcall
  exact ⟨rfl, (Prod.mk.inj (Option.some.inj (hi.symm.trans hlast))).1⟩

end Pulls

section Steps

variable {source : Source α κ} {p : Polling} {T : Task α (Candle α) τ} {stop : Bool}
  {w w' : Line (Candle α) (Polled α κ) τ}

theorem ending_of_listens {s : Polled α κ} (h : s.listens = true) : s.ending = none := by
  unfold listens at h
  unfold ending
  cases hphase : s.phase <;> simp [hphase] at h ⊢

theorem listens_hand (p : Polling) (items : List (Candle α)) (now : Nat) (s : Polled α κ) :
    (s.hand p items now).listens = true := by
  cases items <;> rfl

/-- A feed that leaves in peace was stopped or refused. -/
theorem stopped_of_move (h : Move source p T stop w w')
    (hended : w'.sender.ending = some (.returned (.ok ()))) :
    w.sender.listens = true ∧ (stop = true ∨ T.holdsLine w.receiver = false) := by
  cases h with
  | leave hlistens hwhy => exact ⟨hlistens, hwhy⟩
  | @seed done reply _ _ =>
      cases reply with
      | error f => simp [seed, Polled.leave, ending] at hended
      | ok items => simp [seed, ending_of_listens (listens_hand ..)] at hended
  | hand _ _ => simp [ending_of_listens (listens_hand ..)] at hended
  | tick _ _ => simp [fetch, ending] at hended
  | @answer done limit nextTick reply _ _ _ =>
      rcases reply with f | _ | ⟨item, rest⟩
      · simp [Polled.answer, Polled.leave, ending] at hended
      · simp [Polled.answer, ending] at hended
      · simp [Polled.answer, ending] at hended
  | giveUp _ _ _ => simp [Polled.giveUp, ending] at hended
  | handLatest _ _ => simp [ending] at hended

theorem stopped_of_next (h : Line.Next (task source p) T w w') (hgoes : w.sender.ending = none)
    (hended : w'.sender.ending = some (.returned (.ok ()))) :
    w.sender.listens = true ∧
      (T.stopsOther w.receiver = true ∨ T.holdsLine w.receiver = false) := by
  rcases Line.next_cases h with hsender | hreceiver | ⟨due, -, rfl, -⟩
  · exact stopped_of_move (move_of_senderMoves hsender) hended
  · rw [Line.sender_of_receiverMoves hreceiver, hgoes] at hended
    cases hended
  · rw [hgoes] at hended
    cases hended

/-- How far a feed has come that was stopped outside a call, at this time and after so many
calls: it has left, or has yet to at that very time, or it has taken a tick first. -/
inductive Stopped (now calls : Nat) (w : Line (Candle α) (Polled α κ) τ) : Prop
  | left : w.sender.ending = some (.returned (.ok ())) → Stopped now calls w
  | leaving : w.now = now → w.sender.listens = true → w.sender.asked.size = calls →
      Stopped now calls w
  | ticked (q : Question) : w.sender.asked[calls]? = some (now, q) → Stopped now calls w

theorem asked_hand (p : Polling) (items : List (Candle α)) (now : Nat) (s : Polled α κ) :
    (s.hand p items now).asked = s.asked := by
  cases items <;> rfl

theorem asked_seed (p : Polling) (reply : Except (Failure α) (List (Candle α))) (now : Nat)
    (s : Polled α κ) : (s.seed p reply now).asked = s.asked := by
  cases reply with
  | error f => rfl
  | ok items => exact asked_hand ..

theorem asked_answer (reply : Except (Failure α) (List (Candle α))) (nextTick : Nat)
    (s : Polled α κ) : (s.answer reply nextTick).asked = s.asked := by
  rcases reply with f | _ | ⟨item, rest⟩ <;> rfl

/-- What was asked stays on the list. -/
theorem asked_of_move (h : Move source p T stop w w') {i : Nat} {e : Nat × Question}
    (he : w.sender.asked[i]? = some e) : w'.sender.asked[i]? = some e := by
  cases h with
  | seed _ _ => rw [asked_seed]; exact he
  | leave _ _ => exact he
  | hand _ _ => rw [asked_hand]; exact he
  | tick _ _ =>
      obtain ⟨hbound, -⟩ := Array.getElem?_eq_some_iff.mp he
      simp only [fetch, Array.getElem?_push]
      rw [if_neg (Nat.ne_of_lt hbound)]
      exact he
  | answer _ _ _ => rw [asked_answer]; exact he
  | giveUp _ _ _ => exact he
  | handLatest _ _ => exact he

theorem Stopped.move {now calls : Nat} (h : Stopped now calls w)
    (hgoes : w.sender.ending = none) (hmove : Move source p T stop w w') :
    Stopped now calls w' := by
  cases h with
  | left hended => rw [hgoes] at hended; cases hended
  | ticked q hq => exact .ticked q (asked_of_move hmove hq)
  | leaving hnow hlistens hcalls =>
      cases hmove with
      | leave _ _ => exact .left rfl
      | hand _ _ => exact .leaving hnow (listens_hand ..) (by rw [asked_hand]; exact hcalls)
      | handLatest _ _ => exact .leaving hnow rfl hcalls
      | tick _ _ =>
          refine .ticked (latestQuestion p) ?_
          simp only [fetch, ← hcalls, ← hnow, Array.getElem?_push_size]
      | seed hphase _ => simp [listens, hphase] at hlistens
      | answer hphase _ _ => simp [listens, hphase] at hlistens
      | giveUp hphase _ _ => simp [listens, hphase] at hlistens

theorem Stopped.next {now calls : Nat} (h : Stopped now calls w)
    (hstop : T.stopsOther w.receiver = true) (hnext : Line.Next (task source p) T w w') :
    Stopped now calls w' := by
  rcases Line.next_cases hnext with hsender | hreceiver | ⟨due, hm, rfl, -⟩
  · cases hended : w.sender.ending with
    | none => exact h.move hended (move_of_senderMoves hsender)
    | some e =>
        have hgone : (task source p).hasEnded w.sender = true := Line.hasEnded_of_ending hended
        rw [Line.senderMoves_of_ended (task_settles source p) hgone] at hsender
        exact absurd hsender List.not_mem_nil
  · have hsender := Line.sender_of_receiverMoves hreceiver
    have hnow := Line.now_of_receiverMoves hreceiver
    cases h with
    | left hended => exact .left (by rw [hsender]; exact hended)
    | ticked q hq => exact .ticked q (by rw [hsender]; exact hq)
    | leaving hthen hlistens hcalls =>
        exact .leaving (hnow.trans hthen) (by rw [hsender]; exact hlistens)
          (by rw [hsender]; exact hcalls)
  -- the feed could leave, so time does not pass
  · cases h with
    | left hended => exact .left hended
    | ticked q hq => exact .ticked q hq
    | leaving _ hlistens _ =>
        exact absurd hm (Line.moves_of_sender hstop (leave_mem_senderMoves hlistens))

end Steps

/-- Whatever the script, the period and the limit, and whatever the task at the other end does,
in every interleaving. -/
theorem delivery (script : Script α) (p : Polling) (T : Task α (Candle α) τ) (r : τ) :
    Delivery script p T (.start (begin script.source p 0 0) r) where
  delivered out w hrun := by
    obtain ⟨call, asked, h⟩ := Pulls.of_delivers hrun
    exact ⟨call, h.size, h.delivered⟩
  complete out w hrun hm hslot hgoes := by
    obtain ⟨call, asked, h⟩ := Pulls.of_delivers hrun
    obtain ⟨q, hq⟩ := h.last
    exact ⟨call, asked, q, h.size, hq, h.complete hm hslot hgoes⟩
  apart w hrun := by
    obtain ⟨out, hout⟩ := Line.delivers_of_reaches hrun
    obtain ⟨call, asked, h⟩ := Pulls.of_delivers hout
    exact h.apart
  failed out w f hrun hended := by
    obtain ⟨call, asked, h⟩ := Pulls.of_delivers hrun
    obtain ⟨f', hfails⟩ := h.failed hended
    exact ⟨call, f', h.size, hfails⟩
  fails w hrun i t q f hi hfails := by
    obtain ⟨out, hout⟩ := Line.delivers_of_reaches hrun
    obtain ⟨call, asked, h⟩ := Pulls.of_delivers hout
    obtain ⟨rfl, rfl⟩ := h.eq_last hi hfails
    exact ⟨h.size, h.fails hfails⟩
  peaceful w w' _ hnext hgoes hended := stopped_of_next hnext hgoes hended
  lively _ _ hslot hgoes := Line.exists_next (exists_due (.inl hslot) hgoes)
  stopped w w' _ hlistens hstop hrun := by
    have hstopped : Stopped w.now w.sender.asked.size w' := by
      induction hrun with
      | refl => exact .leaving rfl hlistens rfl
      | tail hrun hnext ih => exact ih.next (hstop _ hrun) hnext
    cases hstopped with
    | left hended => exact .inl hended
    | ticked q hq => exact .inr (.inr ⟨q, hq⟩)
    | leaving hnow hlistens' _ =>
        refine .inr (.inl ⟨hnow, hlistens', List.mem_append_right _ ?_⟩)
        rw [hstop w' hrun]
        exact leave_mem_senderMoves hlistens'

/-- The history, a poll in time, an empty one, one given up and another one in time. -/
example (a b c d e : Candle Float) :
    Script.yield (fun call => ([(70, .ok [a, b]), (3, .ok [c, d]), (1, .ok []), (6, .ok [d]),
      (5, .ok [e])] : List (Nat × Except (Failure Float) (List (Candle Float)))).getD call
        (0, .ok [])) ⟨⟨"BNBUSDT", "bnb", "1h", 2⟩, 10, 5⟩ 5 = [a, b, c, e] := rfl

end Polled

end Crossover

import Crossover.Proofs.Trading.Keeping
import Crossover.Proofs.Trading.Ledger

/-!
# What dealing with an exchange comes to

The calls of the live trader on an exchange that keeps the laws. Each operation is listed once
with everything it can come to: what the budget answered, which positions the exchange then has,
and where the trader is left. A trader tracks when the position it keeps a copy of is the newest
one of the exchange, and open.
-/

namespace Crossover

variable {α β κ : Type}

namespace Live

/-- The copy, if there is one, is the newest position, and is open. -/
def Tracks (positions : κ → List (Position α)) (s : Live α β κ) : Prop :=
  ∀ p, s.current = some p → p.isOpen = true ∧ ∃ older, positions s.exchange = older ++ [p]

theorem tracks_of_none {positions : κ → List (Position α)} {s : Live α β κ}
    (h : s.current = none) : s.Tracks positions := by
  intro p hp
  rw [h] at hp
  cases hp

/-- An order that closes what the opening order opened. -/
structure Counters (fills : Order α → Prop) (p : Position α) (opening o : Order α) : Prop where
  side : o.side = p.side.opposite
  quantity : o.quantity = opening.quantity
  filled : fills o

abbrev wanted (side : Side) (candle : Candle α) : NewPosition := ⟨candle.symbolId, side⟩

section Cases

variable (fails : Failure α → Prop) (fills : Order α → Prop) (positions : κ → List (Position α))
  (budget : Budget α β) (candle : Candle α)

/-- What creating a position can come to. -/
inductive Creating (side : Side) (s : Live α β κ) (t : Turn α β κ (Option (Position α))) : Prop
  | refused {f : Failure α} {b : β} : budget.bookOpen s.budget side candle = (.error f, b) →
      t.state = { s with budget := b } → t.result = .error f → Creating side s t
  | failed {f : Failure α} {quantity : α} {b : β} {k : κ} :
      budget.bookOpen s.budget side candle = (.ok quantity, b) → fails f →
      (positions k = positions s.exchange ∨
        ∃ p, (p.OpenedFor fills (wanted side candle) quantity ∨ p.Bare (wanted side candle)) ∧
          positions k = positions s.exchange ++ [p]) →
      t.state = { s with budget := b, exchange := k } → t.result = .error f → Creating side s t
  | done {quantity : α} {b : β} {k : κ} {p : Position α} :
      budget.bookOpen s.budget side candle = (.ok quantity, b) →
      p.OpenedFor fills (wanted side candle) quantity →
      positions k = positions s.exchange ++ [p] →
      t.state = ⟨b, k, some p⟩ → t.result = .ok (some p) → Creating side s t

/-- What closing the newest position can come to. -/
inductive Closing (older : List (Position α)) (p : Position α) (s : Live α β κ)
    (t : Turn α β κ (Option (Position α))) : Prop
  | refused {f : Failure α} {b : β} :
      budget.bookClose s.budget p.side p.status candle = (.error f, b) →
      t.state = { s with budget := b } → t.result = .error f → Closing older p s t
  | miscounted {quantity : α} {b : β} :
      budget.bookClose s.budget p.side p.status candle = (.ok quantity, b) →
      p.orders.length ≠ 1 → t.state = { s with budget := b } →
      t.result = .error (.ofFault (.orderCount 1 p.orders.length)) → Closing older p s t
  | failed {f : Failure α} {quantity : α} {b : β} {k : κ} {opening o : Order α}
      {p' : Position α} :
      budget.bookClose s.budget p.side p.status candle = (.ok quantity, b) →
      p.orders = [opening] → Counters fills p opening o → fails f →
      p' = p ∨ p' = p.withOrder o ∨ p' = p.close o → positions k = older ++ [p'] →
      t.state = { s with budget := b, exchange := k } → t.result = .error f →
      Closing older p s t
  | done {quantity : α} {b : β} {k : κ} {opening o : Order α} {reply : Option (Position α)} :
      budget.bookClose s.budget p.side p.status candle = (.ok quantity, b) →
      p.orders = [opening] → Counters fills p opening o → positions k = older ++ [p.close o] →
      t.state = ⟨b, k, none⟩ → t.result = .ok reply → Closing older p s t

/-- What an attempt to close can come to. -/
inductive Ceasing (s : Live α β κ) (t : Turn α β κ (Option (Position α))) : Prop
  | unseen {f : Failure α} {k : κ} : s.current = none → fails f →
      positions k = positions s.exchange → t.state = { s with exchange := k } →
      t.result = .error f → Ceasing s t
  | nothing {k : κ} : s.current = none →
      (∀ older p, positions s.exchange = older ++ [p] → p.isOpen = false) →
      positions k = positions s.exchange → t.state = { s with exchange := k } →
      t.result = .ok none → Ceasing s t
  | closing {older : List (Position α)} {p : Position α} {k : κ} :
      s.current = none ∨ s.current = some p → p.isOpen = true →
      positions s.exchange = older ++ [p] → positions k = older ++ [p] →
      Closing fails fills positions budget candle older p
        { s with exchange := k, current := some p } t → Ceasing s t

variable {fails fills positions budget candle}

/-- After a close that did not fail, the trader keeps no copy. -/
theorem Ceasing.current_eq_none {s : Live α β κ} {t : Turn α β κ (Option (Position α))}
    {reply : Option (Position α)} (h : Ceasing fails fills positions budget candle s t)
    (hreply : t.result = .ok reply) : t.state.current = none := by
  cases h with
  | unseen _ _ _ _ hresult =>
      rw [hresult] at hreply
      cases hreply
  | nothing hnone _ _ hstate _ =>
      rw [hstate]
      exact hnone
  | closing _ _ _ _ hclosing =>
      cases hclosing with
      | refused _ _ hresult =>
          rw [hresult] at hreply
          cases hreply
      | miscounted _ _ _ hresult =>
          rw [hresult] at hreply
          cases hreply
      | failed _ _ _ _ _ _ _ hresult =>
          rw [hresult] at hreply
          cases hreply
      | done _ _ _ _ hstate _ => rw [hstate]

end Cases

section Branches

variable {exchange : Exchange α κ} {budget : Budget α β} {candle : Candle α} {s : Live α β κ}
  {side : Side} {f : Failure α} {b : β} {k : κ} {quantity : α} {p : Position α}

theorem create_refused (hb : budget.bookOpen s.budget side candle = (.error f, b)) :
    create budget exchange side candle s = ⟨{ s with budget := b }, [], .error f⟩ := by
  simp only [create, hb]

theorem create_failed (hb : budget.bookOpen s.budget side candle = (.ok quantity, b))
    (hcall : exchange.create s.exchange (wanted side candle) quantity = (.error f, k)) :
    create budget exchange side candle s =
      ⟨{ s with budget := b, exchange := k }, [], .error f⟩ := by
  simp only [create, hb, hcall]

theorem create_done (hb : budget.bookOpen s.budget side candle = (.ok quantity, b))
    (hcall : exchange.create s.exchange (wanted side candle) quantity = (.ok p, k)) :
    create budget exchange side candle s = ⟨⟨b, k, some p⟩, [], .ok (some p)⟩ := by
  simp only [create, hb, hcall]

theorem closeTracked_refused
    (hb : budget.bookClose s.budget p.side p.status candle = (.error f, b)) :
    closeTracked budget exchange candle p s = ⟨{ s with budget := b }, [], .error f⟩ := by
  simp only [closeTracked, hb]

theorem closeTracked_miscounted {fault : Fault α}
    (hb : budget.bookClose s.budget p.side p.status candle = (.ok quantity, b))
    (hclosing : p.closingOrder = .error fault) :
    closeTracked budget exchange candle p s =
      ⟨{ s with budget := b }, [], .error (.ofFault fault)⟩ := by
  simp only [closeTracked, hb, hclosing]

theorem closeTracked_unordered {opening : Order α}
    (hb : budget.bookClose s.budget p.side p.status candle = (.ok quantity, b))
    (hp : p.orders = [opening])
    (hcall : exchange.order s.exchange ⟨p.id, opening.quantity, p.side.opposite⟩ =
      (.error f, k)) :
    closeTracked budget exchange candle p s =
      ⟨{ s with budget := b, exchange := k }, [], .error f⟩ := by
  simp only [closeTracked, hb, Position.closingOrder_singleton hp, hcall]

theorem closeTracked_unclosed {opening o : Order α} {k' : κ}
    (hb : budget.bookClose s.budget p.side p.status candle = (.ok quantity, b))
    (hp : p.orders = [opening])
    (hcall : exchange.order s.exchange ⟨p.id, opening.quantity, p.side.opposite⟩ = (.ok o, k))
    (hcall' : exchange.close k p.id = (.error f, k')) :
    closeTracked budget exchange candle p s =
      ⟨{ s with budget := b, exchange := k' }, [], .error f⟩ := by
  simp only [closeTracked, hb, Position.closingOrder_singleton hp, hcall, hcall']

theorem closeTracked_done {opening o : Order α} {k' : κ} {reply : Option (Position α)}
    (hb : budget.bookClose s.budget p.side p.status candle = (.ok quantity, b))
    (hp : p.orders = [opening])
    (hcall : exchange.order s.exchange ⟨p.id, opening.quantity, p.side.opposite⟩ = (.ok o, k))
    (hcall' : exchange.close k p.id = (.ok reply, k')) :
    closeTracked budget exchange candle p s = ⟨⟨b, k', none⟩, [], .ok reply⟩ := by
  simp only [closeTracked, hb, Position.closingOrder_singleton hp, hcall, hcall']

theorem closeCurrent_open (hp : s.current = some p) (hopen : p.isOpen = true) :
    closeCurrent budget exchange candle s = closeTracked budget exchange candle p s := by
  simp only [closeCurrent, hp, hopen, if_true]

theorem close_tracked (hp : s.current = some p) (hopen : p.isOpen = true) :
    close budget exchange candle s = closeTracked budget exchange candle p s := by
  rw [close, hp]
  exact closeCurrent_open hp hopen

theorem close_unseen (hnone : s.current = none)
    (hcall : exchange.newest s.exchange = (.error f, k)) :
    close budget exchange candle s = ⟨{ s with exchange := k }, [], .error f⟩ := by
  simp only [close, hnone, recover, hcall]
  rfl

theorem close_seen {newest : Option (Position α)} (hnone : s.current = none)
    (hcall : exchange.newest s.exchange = (.ok newest, k)) :
    close budget exchange candle s = closeCurrent budget exchange candle
      { s with exchange := k, current := newest.filter Position.isOpen } := by
  simp only [close, hnone, recover, hcall]
  rfl

theorem openPosition_idle (hnone : s.current = none) :
    openPosition budget exchange side candle s = create budget exchange side candle s := by
  simp only [openPosition, hnone]

theorem openPosition_refused (side : Side) (hp : s.current = some p)
    (hclose : (close budget exchange candle s).result = .error f) :
    (openPosition budget exchange side candle s).state =
        (close budget exchange candle s).state ∧
      (openPosition budget exchange side candle s).result = .error f := by
  simp only [openPosition, hp, hclose, and_self]

theorem openPosition_closed (side : Side) {reply : Option (Position α)} (hp : s.current = some p)
    (hclose : (close budget exchange candle s).result = .ok reply) :
    (openPosition budget exchange side candle s).state =
        (create budget exchange side candle (close budget exchange candle s).state).state ∧
      (openPosition budget exchange side candle s).result =
        (create budget exchange side candle (close budget exchange candle s).state).result := by
  simp only [openPosition, hp, hclose, and_self]

end Branches

section Laws

variable {exchange : Exchange α κ} {fails : Failure α → Prop} {fills : Order α → Prop}
  {positions : κ → List (Position α)} {sound : κ → Prop} (budget : Budget α β)
  (candle : Candle α) {s : Live α β κ}

theorem create_cases (hkeeps : exchange.Keeps fails fills positions sound)
    (hsound : sound s.exchange) (side : Side) :
    sound (create budget exchange side candle s).state.exchange ∧
      Creating fails fills positions budget candle side s
        (create budget exchange side candle s) := by
  rcases hb : budget.bookOpen s.budget side candle with ⟨f | quantity, b⟩
  · rw [create_refused hb]
    exact ⟨hsound, .refused hb rfl rfl⟩
  obtain ⟨hsound', hcreated⟩ := hkeeps.create s.exchange (wanted side candle) quantity hsound
  rcases hcall : exchange.create s.exchange (wanted side candle) quantity with ⟨reply, k⟩
  rw [hcall] at hsound' hcreated
  cases hcreated with
  | done _ hopened hreply hnow =>
      obtain rfl := hreply
      rw [create_done hb hcall]
      exact ⟨hsound', .done hb hopened hnow rfl rfl⟩
  | refused hreply hf hnow =>
      obtain rfl := hreply
      rw [create_failed hb hcall]
      exact ⟨hsound', .failed hb hf (.inl hnow) rfl rfl⟩
  | lost hreply hf _ hp hnow =>
      obtain rfl := hreply
      rw [create_failed hb hcall]
      exact ⟨hsound', .failed hb hf (.inr ⟨_, hp, hnow⟩) rfl rfl⟩

theorem order_newest (hkeeps : exchange.Keeps fails fills positions sound) {k : κ}
    (hsound : sound k) {older : List (Position α)} {p : Position α}
    (hp : positions k = older ++ [p]) (quantity : α) (side : Side) :
    sound (exchange.order k ⟨p.id, quantity, side⟩).2 ∧
      ∃ o, o.side = side ∧ o.quantity = quantity ∧ fills o ∧
        Outcome fails (fun _ => True) (older ++ [p]) (older ++ [p.withOrder o])
          (exchange.order k ⟨p.id, quantity, side⟩).1
          (positions (exchange.order k ⟨p.id, quantity, side⟩).2) := by
  have hnamed := hkeeps.named k hsound
  rw [hp] at hnamed
  obtain ⟨hsound', o, hside, hquantity, hfills, houtcome⟩ :=
    hkeeps.order k ⟨p.id, quantity, side⟩ hsound ⟨p, by simp [hp], rfl⟩
  rw [hp, Position.amend_concat hnamed] at houtcome
  exact ⟨hsound', o, hside, hquantity, hfills, houtcome⟩

theorem close_newest (hkeeps : exchange.Keeps fails fills positions sound) {k : κ}
    (hsound : sound k) {older : List (Position α)} {p : Position α}
    (hp : positions k = older ++ [p]) :
    sound (exchange.close k p.id).2 ∧
      Outcome fails (fun _ => True) (older ++ [p]) (older ++ [p.markedClosed])
        (exchange.close k p.id).1 (positions (exchange.close k p.id).2) := by
  have hnamed := hkeeps.named k hsound
  rw [hp] at hnamed
  obtain ⟨hsound', houtcome⟩ := hkeeps.close k p.id hsound ⟨p, by simp [hp], rfl⟩
  rw [hp, Position.amend_concat hnamed] at houtcome
  exact ⟨hsound', houtcome⟩

theorem closeTracked_cases (hkeeps : exchange.Keeps fails fills positions sound)
    (hsound : sound s.exchange) {older : List (Position α)} {p : Position α}
    (hp : positions s.exchange = older ++ [p]) :
    sound (closeTracked budget exchange candle p s).state.exchange ∧
      Closing fails fills positions budget candle older p s
        (closeTracked budget exchange candle p s) := by
  rcases hb : budget.bookClose s.budget p.side p.status candle with ⟨f | quantity, b⟩
  · rw [closeTracked_refused hb]
    exact ⟨hsound, .refused hb rfl rfl⟩
  rcases hclosing : p.closingOrder with fault | closing
  · rw [closeTracked_miscounted hb hclosing]
    obtain ⟨hcount, rfl⟩ := Position.closingOrder_eq_error hclosing
    exact ⟨hsound, .miscounted hb hcount rfl rfl⟩
  obtain ⟨opening, horders, -⟩ := Position.closingOrder_eq_ok hclosing
  obtain ⟨hsound₁, o, hside, hquantity, hfills, hordered⟩ :=
    order_newest hkeeps hsound hp opening.quantity p.side.opposite
  have hcounters : Counters fills p opening o := ⟨hside, hquantity, hfills⟩
  rcases hcall : exchange.order s.exchange ⟨p.id, opening.quantity, p.side.opposite⟩ with
    ⟨reply, k⟩
  rw [hcall] at hsound₁ hordered
  rcases hordered with ⟨hreply, -, hnow⟩ | ⟨hreply, hf, hnow⟩
  · obtain rfl := hreply
    obtain ⟨hsound₂, hclosed⟩ := close_newest hkeeps hsound₁ hnow
    rcases hcall' : exchange.close k p.id with ⟨reply, k'⟩
    rw [show (p.withOrder o).id = p.id from rfl, hcall'] at hsound₂ hclosed
    rcases hclosed with ⟨hreply, -, hnow⟩ | ⟨hreply, hf, hnow⟩
    · obtain rfl := hreply
      rw [closeTracked_done hb horders hcall hcall']
      exact ⟨hsound₂, .done hb horders hcounters hnow rfl rfl⟩
    · obtain rfl := hreply
      rw [closeTracked_unclosed hb horders hcall hcall']
      rcases hnow with hnow | hnow
      · exact ⟨hsound₂, .failed hb horders hcounters hf (.inr (.inl rfl)) hnow rfl rfl⟩
      · exact ⟨hsound₂, .failed hb horders hcounters hf (.inr (.inr rfl)) hnow rfl rfl⟩
  · obtain rfl := hreply
    rw [closeTracked_unordered hb horders hcall]
    rcases hnow with hnow | hnow
    · exact ⟨hsound₁, .failed hb horders hcounters hf (.inl rfl) hnow rfl rfl⟩
    · exact ⟨hsound₁, .failed hb horders hcounters hf (.inr (.inl rfl)) hnow rfl rfl⟩

theorem close_cases (hkeeps : exchange.Keeps fails fills positions sound)
    (hsound : sound s.exchange) (htracks : s.Tracks positions) :
    sound (close budget exchange candle s).state.exchange ∧
      Ceasing fails fills positions budget candle s (close budget exchange candle s) := by
  obtain ⟨b, k, _ | p⟩ := s
  · obtain ⟨hsound', houtcome⟩ := hkeeps.newest k hsound
    rcases hcall : exchange.newest k with ⟨reply, k'⟩
    rw [hcall] at hsound' houtcome
    rcases houtcome with ⟨hreply, hgood, hnow⟩ | ⟨hreply, hf, hnow⟩
    · obtain rfl := hreply
      rw [close_seen rfl hcall, hgood]
      cases hlast : (positions k).getLast? with
      | none =>
          refine ⟨hsound', .nothing rfl (fun older p hp => ?_) hnow rfl rfl⟩
          rw [show positions k = older ++ [p] from hp, List.getLast?_concat] at hlast
          cases hlast
      | some p =>
          obtain ⟨older, hp⟩ := List.getLast?_eq_some_iff.mp hlast
          cases hopen : p.isOpen with
          | false =>
              have hfilter : (some p).filter Position.isOpen = none := by
                simp [Option.filter, hopen]
              rw [hfilter]
              refine ⟨hsound', .nothing rfl (fun older' p' hp' => ?_) hnow rfl rfl⟩
              have hsame := List.append_inj_right' (hp.symm.trans hp') rfl
              rw [← List.singleton_inj.mp hsame, hopen]
          | true =>
              have hfilter : (some p).filter Position.isOpen = some p := by
                simp [Option.filter, hopen]
              have hp' : positions k' = older ++ [p] := hnow.trans hp
              rw [hfilter, closeCurrent_open rfl hopen]
              obtain ⟨hsound'', hclosing⟩ := closeTracked_cases (s := ⟨b, k', some p⟩)
                budget candle hkeeps hsound' hp'
              exact ⟨hsound'', .closing (.inl rfl) hopen hp hp' hclosing⟩
    · obtain rfl := hreply
      rw [close_unseen rfl hcall]
      exact ⟨hsound', .unseen rfl hf (hnow.elim id id) rfl rfl⟩
  · obtain ⟨hopen, older, hp⟩ := htracks p rfl
    rw [close_tracked rfl hopen]
    obtain ⟨hsound', hclosing⟩ := closeTracked_cases budget candle hkeeps hsound hp
    exact ⟨hsound', .closing (.inr rfl) hopen hp hp hclosing⟩

end Laws

end Live

end Crossover

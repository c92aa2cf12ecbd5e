import Mathlib.Data.List.Nodup
import Crossover.Trading.Exchange

/-!
# What an exchange keeps

The laws a trader relies on. An exchange keeps a list of positions of different names, oldest
first. A call takes effect and is answered, or fails; a failed call may have had its effect, and
a failed creation may have left a position without its opening order. Which failures there are,
and at which prices orders are filled, is left open. The stored exchange keeps these laws and
never fails.
-/

namespace Crossover

variable {α κ : Type}

namespace Position

def withOrder (o : Order α) (p : Position α) : Position α :=
  { p with orders := p.orders ++ [o] }

def markedClosed (p : Position α) : Position α :=
  { p with status := .closed }

def amend (id : String) (f : Position α → Position α) (ps : List (Position α)) :
    List (Position α) :=
  ps.map fun p => if p.id = id then f p else p

def Named (ps : List (Position α)) : Prop :=
  (ps.map Position.id).Nodup

variable {ps : List (Position α)} {p : Position α} {f : Position α → Position α}

theorem named_concat : Named (ps ++ [p]) ↔ Named ps ∧ ∀ q ∈ ps, q.id ≠ p.id := by
  simp only [Named, List.map_append, List.map_cons, List.map_nil, List.nodup_append,
    List.nodup_singleton, List.mem_singleton, List.mem_map, true_and]
  constructor
  · rintro ⟨hps, hne⟩
    exact ⟨hps, fun q hq => hne _ ⟨q, hq, rfl⟩ _ rfl⟩
  · rintro ⟨hps, hne⟩
    refine ⟨hps, ?_⟩
    rintro _ ⟨q, hq, rfl⟩ _ rfl
    exact hne q hq

/-- To change the newest position is to replace it. -/
theorem amend_concat (h : Named (ps ++ [p])) : amend p.id f (ps ++ [p]) = ps ++ [f p] := by
  have hps : amend p.id f ps = ps := by
    refine (List.map_congr_left fun q hq => ?_).trans (List.map_id ps)
    exact if_neg ((named_concat.mp h).2 q hq)
  have hp : amend p.id f [p] = [f p] := by
    simp [amend]
  rw [amend, List.map_append]
  exact congrArg₂ _ hps hp

theorem map_id_amend (id : String) (hf : ∀ p, (f p).id = p.id) :
    (amend id f ps).map Position.id = ps.map Position.id := by
  rw [amend, List.map_map]
  refine List.map_congr_left fun p _ => ?_
  by_cases hid : p.id = id
  · simp only [Function.comp, if_pos hid, hf]
  · simp only [Function.comp, if_neg hid]

end Position

open Position (amend Named)

/-- What becomes of a call that would have this effect on the positions: it takes effect and is
answered, or fails, before or after the effect. -/
inductive Outcome {ω : Type} (fails : Failure α → Prop) (good : ω → Prop)
    (before after : List (Position α)) (reply : Except (Failure α) ω)
    (now : List (Position α)) : Prop
  | done {x : ω} : reply = .ok x → good x → now = after → Outcome fails good before after reply now
  | failed {f : Failure α} : reply = .error f → fails f → now = before ∨ now = after →
      Outcome fails good before after reply now

/-- The opening order of a position is as it was asked for. -/
structure Position.OpenedFor (fills : Order α → Prop) (new : NewPosition) (quantity : α)
    (p : Position α) : Prop where
  isOpen : p.isOpen = true
  side : p.side = new.side
  orders : ∃ o, p.orders = [o] ∧ o.side = new.side ∧ o.quantity = quantity ∧ fills o

/-- A position that was created without its opening order. -/
structure Position.Bare (new : NewPosition) (p : Position α) : Prop where
  isOpen : p.isOpen = true
  side : p.side = new.side
  orders : p.orders = []

/-- What becomes of a creation. Its position has a new name. -/
inductive Created (fails : Failure α → Prop) (fills : Order α → Prop) (new : NewPosition)
    (quantity : α) (before : List (Position α)) (reply : Except (Failure α) (Position α))
    (now : List (Position α)) : Prop
  | done {p : Position α} : (∀ q ∈ before, q.id ≠ p.id) → p.OpenedFor fills new quantity →
      reply = .ok p → now = before ++ [p] → Created fails fills new quantity before reply now
  | refused {f : Failure α} : reply = .error f → fails f → now = before →
      Created fails fills new quantity before reply now
  | lost {f : Failure α} {p : Position α} : reply = .error f → fails f →
      (∀ q ∈ before, q.id ≠ p.id) → p.OpenedFor fills new quantity ∨ p.Bare new →
      now = before ++ [p] → Created fails fills new quantity before reply now

/-- The laws of an exchange, in its sound states: `fails` are the failures it can answer with,
and `fills` says how it fills an order. -/
structure Exchange.Keeps (exchange : Exchange α κ) (fails : Failure α → Prop)
    (fills : Order α → Prop) (positions : κ → List (Position α)) (sound : κ → Prop) : Prop where
  named : ∀ k, sound k → Named (positions k)
  newest : ∀ k, sound k → sound (exchange.newest k).2 ∧
    Outcome fails (· = (positions k).getLast?) (positions k) (positions k)
      (exchange.newest k).1 (positions (exchange.newest k).2)
  create : ∀ k new quantity, sound k → sound (exchange.create k new quantity).2 ∧
    Created fails fills new quantity (positions k) (exchange.create k new quantity).1
      (positions (exchange.create k new quantity).2)
  order : ∀ k new, sound k → (∃ p ∈ positions k, p.id = new.positionId) →
    sound (exchange.order k new).2 ∧
      ∃ o, o.side = new.side ∧ o.quantity = new.quantity ∧ fills o ∧
        Outcome fails (fun _ => True) (positions k)
          (amend new.positionId (Position.withOrder o) (positions k))
          (exchange.order k new).1 (positions (exchange.order k new).2)
  close : ∀ k id, sound k → (∃ p ∈ positions k, p.id = id) → sound (exchange.close k id).2 ∧
    Outcome fails (fun _ => True) (positions k) (amend id Position.markedClosed (positions k))
      (exchange.close k id).1 (positions (exchange.close k id).2)

def Failure.Never (_ : Failure α) : Prop := False

section Crashes

variable {ω : Type}

/-- A call that fails without effect once the count has run out. -/
def counted (failure : Failure α) (call : κ → Except (Failure α) ω × κ) (s : κ × Nat) :
    Except (Failure α) ω × (κ × Nat) :=
  match s.2 with
  | 0 => (.error failure, s)
  | n + 1 => ((call s.1).1, ((call s.1).2, n))

/-- The exchange as it is seen by a trader that crashes after a number of calls: all further
calls fail. -/
def Exchange.crashing (exchange : Exchange α κ) (failure : Failure α) :
    Exchange α (κ × Nat) where
  list := counted failure exchange.list
  newest := counted failure exchange.newest
  create s new quantity := counted failure (fun k => exchange.create k new quantity) s
  order s new := counted failure (fun k => exchange.order k new) s
  close s id := counted failure (fun k => exchange.close k id) s

variable {exchange : Exchange α κ} {fails : Failure α → Prop} {fills : Order α → Prop}
  {positions : κ → List (Position α)} {sound : κ → Prop}

theorem Outcome.mono {fails' : Failure α → Prop} (hfails : ∀ f, fails f → fails' f)
    {good : ω → Prop} {before after now : List (Position α)} {reply : Except (Failure α) ω}
    (h : Outcome fails good before after reply now) :
    Outcome fails' good before after reply now := by
  cases h with
  | done hreply hgood hnow => exact .done hreply hgood hnow
  | failed hreply hf hnow => exact .failed hreply (hfails _ hf) hnow

theorem Created.mono {fails' : Failure α → Prop} (hfails : ∀ f, fails f → fails' f)
    {new : NewPosition} {quantity : α} {before now : List (Position α)}
    {reply : Except (Failure α) (Position α)}
    (h : Created fails fills new quantity before reply now) :
    Created fails' fills new quantity before reply now := by
  cases h with
  | done hfresh hopened hreply hnow => exact .done hfresh hopened hreply hnow
  | refused hreply hf hnow => exact .refused hreply (hfails _ hf) hnow
  | lost hreply hf hfresh hp hnow => exact .lost hreply (hfails _ hf) hfresh hp hnow

/-- An exchange keeps the laws whenever the trader crashes. So what the laws make true after
every bar is true between any two calls. -/
theorem Exchange.Keeps.crashing (hkeeps : exchange.Keeps fails fills positions sound)
    (failure : Failure α) : (exchange.crashing failure).Keeps (fun f => fails f ∨ f = failure)
      fills (fun s => positions s.1) (fun s => sound s.1) where
  named s hs := hkeeps.named s.1 hs
  newest := by
    rintro ⟨k, _ | n⟩ hs
    · exact ⟨hs, .failed rfl (.inr rfl) (.inl rfl)⟩
    · obtain ⟨hsound, houtcome⟩ := hkeeps.newest k hs
      exact ⟨hsound, houtcome.mono fun _ => .inl⟩
  create := by
    rintro ⟨k, _ | n⟩ new quantity hs
    · exact ⟨hs, .refused rfl (.inr rfl) rfl⟩
    · obtain ⟨hsound, hcreated⟩ := hkeeps.create k new quantity hs
      exact ⟨hsound, hcreated.mono fun _ => .inl⟩
  order := by
    rintro ⟨k, _ | n⟩ new hs hp
    · obtain ⟨-, o, hside, hquantity, hfills, -⟩ := hkeeps.order k new hs hp
      exact ⟨hs, o, hside, hquantity, hfills, .failed rfl (.inr rfl) (.inl rfl)⟩
    · obtain ⟨hsound, o, hside, hquantity, hfills, houtcome⟩ := hkeeps.order k new hs hp
      exact ⟨hsound, o, hside, hquantity, hfills, houtcome.mono fun _ => .inl⟩
  close := by
    rintro ⟨k, _ | n⟩ id hs hp
    · exact ⟨hs, .failed rfl (.inr rfl) (.inl rfl)⟩
    · obtain ⟨hsound, houtcome⟩ := hkeeps.close k id hs hp
      exact ⟨hsound, houtcome.mono fun _ => .inl⟩

end Crashes

end Crossover

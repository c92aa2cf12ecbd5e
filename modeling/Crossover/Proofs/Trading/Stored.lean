import Crossover.Proofs.Trading.Keeping

/-!
# The stored exchange keeps the laws

The stored exchange keeps the laws of an exchange and never fails, at whatever price its orders
are filled. With mishaps it still keeps them: there every call meets a fate, and fails when the
fate is bad.
-/

namespace Crossover

variable {α : Type}

open Position (amend Named)

namespace Stored

def nameOf (n : Nat) : String := s!"n{n}"

theorem nameOf_injective {m n : Nat} (h : nameOf m = nameOf n) : m = n := by
  have hrepr : Nat.repr m = Nat.repr n := (String.append_right_inj "n").mp h
  have hdigits : Nat.toDigits 10 m = Nat.toDigits 10 n := String.ofList_injective hrepr
  rw [← Nat.ofDigitChars_ten_toDigits (n := m), hdigits, Nat.ofDigitChars_ten_toDigits]

/-- The positions have different names, and none has the name of a position yet to come. -/
structure Sound (s : Stored α) : Prop where
  named : Named s.positions
  past : ∀ p ∈ s.positions, ∀ n, p.id = nameOf n → n ≤ s.created

variable {s : Stored α}

theorem updateFirst_eq_amend {ps : List (Position α)} (h : Named ps) (id : String)
    (f : Position α → Position α) : updateFirst id f ps = amend id f ps := by
  induction ps with
  | nil => rfl
  | cons p ps ih =>
      have hps : Named ps := (List.nodup_cons.mp h).2
      have hp : p.id ∉ ps.map Position.id := (List.nodup_cons.mp h).1
      by_cases hid : p.id = id
      · have hrest : amend id f ps = ps := by
          refine (List.map_congr_left fun q hq => if_neg ?_).trans (List.map_id ps)
          intro hq'
          exact hp (List.mem_map.mpr ⟨q, hq, hq'.trans hid.symm⟩)
        rw [updateFirst, if_pos hid]
        show _ = (if p.id = id then f p else p) :: amend id f ps
        rw [if_pos hid, hrest]
      · rw [updateFirst, if_neg hid, ih hps]
        show _ = (if p.id = id then f p else p) :: amend id f ps
        rw [if_neg hid]

theorem sound_of_amend (h : s.Sound) {s' : Stored α} (id : String) {f : Position α → Position α}
    (hf : ∀ p, (f p).id = p.id) (hpositions : s'.positions = amend id f s.positions)
    (hcreated : s'.created = s.created) : s'.Sound where
  named := by
    rw [hpositions, Named, Position.map_id_amend id hf]
    exact h.named
  past p hp n hn := by
    have hids : s'.positions.map Position.id = s.positions.map Position.id := by
      rw [hpositions, Position.map_id_amend id hf]
    have hmem : p.id ∈ s.positions.map Position.id := hids ▸ List.mem_map_of_mem hp
    obtain ⟨q, hq, hid⟩ := List.mem_map.mp hmem
    rw [hcreated]
    exact h.past q hq n (hid.trans hn)

theorem Sound.ordered (h : s.Sound) (id : String) (o : Order α) :
    Sound { s with
      positions := amend id (Position.withOrder o) s.positions
      filled := s.filled + 1 } :=
  sound_of_amend h id (fun p => (rfl : (p.withOrder o).id = p.id)) rfl rfl

theorem Sound.marked (h : s.Sound) (id : String) :
    Sound { s with positions := amend id Position.markedClosed s.positions } :=
  sound_of_amend h id (fun p => (rfl : p.markedClosed.id = p.id)) rfl rfl

theorem sound_empty (price : Nat → α) : Sound (.ofPositions [] price) where
  named := List.nodup_nil
  past p hp := by cases hp

def created? (s : Stored α) (new : NewPosition) (quantity : α) : Position α :=
  let bare := blankPosition (nameOf (s.created + 1)) new
  { bare with orders := [s.fill bare quantity new.side] }

theorem create_eq (s : Stored α) (new : NewPosition) (quantity : α) :
    s.create new quantity = (.ok (s.created? new quantity),
      { s with
        positions := s.positions ++ [s.created? new quantity]
        created := s.created + 1
        filled := s.filled + 1 }) := rfl

theorem fresh_name (h : s.Sound) : ∀ q ∈ s.positions, q.id ≠ nameOf (s.created + 1) := by
  intro q hq hid
  have hle := h.past q hq _ hid
  omega

/-- A position of the next name keeps the positions sound. -/
theorem sound_of_append (h : s.Sound) {s' : Stored α} {p : Position α}
    (hid : p.id = nameOf (s.created + 1)) (hpositions : s'.positions = s.positions ++ [p])
    (hcreated : s'.created = s.created + 1) : s'.Sound where
  named := by
    rw [hpositions, Position.named_concat, hid]
    exact ⟨h.named, fresh_name h⟩
  past q hq n hn := by
    rw [hpositions] at hq
    rw [hcreated]
    rcases List.mem_append.mp hq with hq | hq
    · have hle := h.past q hq n hn
      omega
    · rw [List.mem_singleton.mp hq, hid] at hn
      exact Nat.le_of_eq (nameOf_injective hn).symm

theorem find?_isSome {id : String} (hp : ∃ p ∈ s.positions, p.id = id) :
    ∃ p, s.positions.find? (·.id = id) = some p ∧ p.id = id := by
  obtain ⟨p, hmem, hid⟩ := hp
  cases hfind : s.positions.find? (·.id = id) with
  | none =>
      have hnone := List.find?_eq_none.mp hfind p hmem
      exact absurd (by simpa using hid) hnone
  | some q => exact ⟨q, rfl, by simpa using List.find?_some hfind⟩

theorem order_eq (h : s.Sound) {new : NewOrder α}
    (hp : ∃ p ∈ s.positions, p.id = new.positionId) :
    ∃ o, o.side = new.side ∧ o.quantity = new.quantity ∧ o.price = s.price s.filled ∧
      s.order new = (.ok o,
        { s with
          positions := amend new.positionId (Position.withOrder o) s.positions
          filled := s.filled + 1 }) := by
  obtain ⟨p, hfind, hid⟩ := find?_isSome hp
  refine ⟨s.fill p new.quantity new.side, rfl, rfl, rfl, ?_⟩
  simp only [order, hfind, updateFirst_eq_amend h.named, hid]
  rfl

theorem close_eq (h : s.Sound) {id : String} (hp : ∃ p ∈ s.positions, p.id = id) :
    s.close id = (.ok (amend id Position.markedClosed s.positions).getLast?,
      { s with positions := amend id Position.markedClosed s.positions }) := by
  obtain ⟨p, hfind, -⟩ := find?_isSome hp
  simp only [close, hfind, updateFirst_eq_amend h.named]
  rfl

theorem openedFor_created? (s : Stored α) (new : NewPosition) (quantity : α)
    {fills : Order α → Prop} (hfills : ∀ o, o.price = s.price s.filled → fills o) :
    (s.created? new quantity).OpenedFor fills new quantity where
  isOpen := rfl
  side := rfl
  orders := ⟨s.fill (blankPosition (nameOf (s.created + 1)) new) quantity new.side, rfl, rfl, rfl,
    hfills _ rfl⟩

def repriced (reprice : (Nat → α) → Nat → α) (s : Stored α) : Stored α :=
  { s with price := reprice s.price }

theorem Sound.repriced (h : s.Sound) (reprice : (Nat → α) → Nat → α) :
    (s.repriced reprice).Sound :=
  ⟨h.named, h.past⟩

end Stored

open Stored (Sound)

def storedWith (reprice : (Nat → α) → Nat → α) : Exchange α (Stored α) where
  list := (storedExchange α).list
  newest := (storedExchange α).newest
  create s new quantity := (s.repriced reprice).create new quantity
  order s new := (s.repriced reprice).order new
  close := (storedExchange α).close

theorem storedWith_keeps (reprice : (Nat → α) → Nat → α) {fills : Order α → Prop}
    (hfills : ∀ price n o, o.price = reprice price n → fills o) :
    (storedWith reprice).Keeps Failure.Never fills Stored.positions Sound where
  named k hk := hk.named
  newest k hk := ⟨hk, .done rfl rfl rfl⟩
  create k new quantity hk := ⟨Stored.sound_of_append hk rfl rfl rfl,
    .done (Stored.fresh_name hk)
      ((k.repriced reprice).openedFor_created? new quantity (hfills k.price k.filled)) rfl rfl⟩
  order k new hk hp := by
    obtain ⟨o, hside, hquantity, hprice, heq⟩ := Stored.order_eq (hk.repriced reprice) hp
    simp only [storedWith, heq]
    exact ⟨(hk.repriced reprice).ordered new.positionId o, o, hside, hquantity,
      hfills _ _ o hprice, .done rfl trivial rfl⟩
  close k id hk hp := by
    simp only [storedWith, storedExchange, Stored.close_eq hk hp]
    exact ⟨hk.marked id, .done rfl trivial rfl⟩

theorem storedExchange_keeps :
    (storedExchange α).Keeps Failure.Never (fun _ => True) Stored.positions Sound :=
  storedWith_keeps id fun _ _ _ _ => trivial

abbrev storedAt (price : α) : Exchange α (Stored α) :=
  storedWith fun _ _ => price

theorem storedAt_keeps (price : α) :
    (storedAt price).Keeps Failure.Never (fun o => o.price = price) Stored.positions Sound :=
  storedWith_keeps _ fun _ _ _ h => h

inductive Fate
  | kept
  | refused
  | lost
  /-- A creation is torn when the position is there without its order. -/
  | torn
deriving DecidableEq, Repr

namespace Fate

/-- What a call answers and where it leaves the exchange, given where it would go and where a
torn one would. -/
def meet {ω : Type} (failure : Failure α) (before : Stored α)
    (call : Except (Failure α) ω × Stored α) (halfway : Stored α) :
    Fate → Except (Failure α) ω × Stored α
  | .kept => call
  | .refused => (.error failure, before)
  | .lost => (.error failure, call.2)
  | .torn => (.error failure, halfway)

/-- A call whose fate is the first of the list, or to be kept when there is none left. -/
def call {ω : Type} (failure : Failure α) (s : Stored α × List Fate)
    (call : Except (Failure α) ω × Stored α) (halfway : Stored α) :
    Except (Failure α) ω × (Stored α × List Fate) :=
  let (reply, k) := meet failure s.1 call halfway (s.2.headD .kept)
  (reply, (k, s.2.tail))

end Fate

namespace Stored

def torn (s : Stored α) (new : NewPosition) : Stored α :=
  { s with
    positions := s.positions ++ [blankPosition (nameOf (s.created + 1)) new]
    created := s.created + 1 }

end Stored

/-- The stored exchange under a list of fates, with one failure for all bad ones. -/
def mishapExchange (failure : Failure α) : Exchange α (Stored α × List Fate) where
  list s := Fate.call failure s ((storedExchange α).list s.1) s.1
  newest s := Fate.call failure s ((storedExchange α).newest s.1) s.1
  create s new quantity := Fate.call failure s (s.1.create new quantity) (s.1.torn new)
  order s new := Fate.call failure s (s.1.order new) s.1
  close s id := Fate.call failure s (s.1.close id) s.1

namespace Fate

/-- A call with an effect keeps soundness and comes to one of the outcomes, whatever its
fate. -/
theorem call_outcome {ω : Type} (failure : Failure α) (good : ω → Prop)
    {s : Stored α × List Fate} {reply : ω} {k : Stored α} (hgood : good reply) (hs : s.1.Sound)
    (hk : k.Sound) :
    (Fate.call failure s (.ok reply, k) s.1).2.1.Sound ∧
      Outcome (fun f => f = failure) good s.1.positions k.positions
        (Fate.call failure s (.ok reply, k) s.1).1
        (Fate.call failure s (.ok reply, k) s.1).2.1.positions := by
  unfold Fate.call
  cases s.2.headD .kept with
  | kept => exact ⟨hk, .done rfl hgood rfl⟩
  | refused => exact ⟨hs, .failed rfl rfl (.inl rfl)⟩
  | lost => exact ⟨hk, .failed rfl rfl (.inr rfl)⟩
  | torn => exact ⟨hs, .failed rfl rfl (.inl rfl)⟩

end Fate

theorem mishapExchange_keeps (failure : Failure α) :
    (mishapExchange failure).Keeps (fun f => f = failure) (fun _ => True)
      (fun s => s.1.positions) (fun s => s.1.Sound) where
  named s hs := hs.named
  newest s hs := Fate.call_outcome failure _ rfl hs hs
  create s new quantity hs := by
    have hk : (s.1.create new quantity).2.Sound := Stored.sound_of_append hs rfl rfl rfl
    have hopened := s.1.openedFor_created? new quantity fun _ _ => trivial
    have hfresh := Stored.fresh_name hs
    simp only [mishapExchange, Fate.call, Stored.create_eq]
    cases s.2.headD .kept with
    | kept => exact ⟨hk, .done hfresh hopened rfl rfl⟩
    | refused => exact ⟨hs, .refused rfl rfl rfl⟩
    | lost => exact ⟨hk, .lost rfl rfl hfresh (.inl hopened) rfl⟩
    | torn =>
        exact ⟨Stored.sound_of_append hs rfl rfl rfl,
          .lost rfl rfl hfresh (.inr ⟨rfl, rfl, rfl⟩) rfl⟩
  order s new hs hp := by
    obtain ⟨o, hside, hquantity, -, heq⟩ := Stored.order_eq hs hp
    have hk := hs.ordered new.positionId o
    simp only [mishapExchange, heq]
    obtain ⟨hsound, houtcome⟩ := Fate.call_outcome failure (fun _ => True) trivial hs hk
    exact ⟨hsound, o, hside, hquantity, trivial, houtcome⟩
  close s id hs hp := by
    have heq := Stored.close_eq hs hp
    simp only [mishapExchange, heq]
    exact Fate.call_outcome failure _ trivial hs (hs.marked id)

end Crossover

import Crossover.Proofs.Remote.RoundTrip
import Crossover.Proofs.Remote.Sending

/-!
# Listing by pages

A client lists the positions of a server page by page and stops at the first page that is not
full. The requests are followed here one after the other, each from the state the one before has
left the link in, so nothing is assumed of requests that are not made. Every position is listed
once, a list that fills its last page costs one request more, for the empty page behind it, and
the first request that fails is the last one.
-/

namespace Crossover.Remote

variable {κ : Type}

def pageReader : Json.Reader (Option (List (Position Float))) :=
  .nullable (.list Wire.position.read)

/-- A reply that brings these positions; an empty list may come as null. -/
inductive Brings : Except NoResponse Response → List (Position Float) → Prop
  | page {response : Response} {found : Option (List (Position Float))} : response.Counts →
      pageReader.run response.body.toList = .ok found → Brings (.ok response) (found.getD [])

/-- A reply that brings nothing, and the failure it stands for. -/
inductive Breaks : Except NoResponse Response → Failure Float → Prop
  | unanswered (why : NoResponse) :
      Breaks (.error why) (.outside .transport why.message why.because)
  | refused {response : Response} : ¬ response.Counts →
      Breaks (.ok response) (.ofFault (.unexpectedStatus response.status))
  | unreadable {response : Response} {e : Json.Error} : response.Counts →
      pageReader.run response.body.toList = .error e →
      Breaks (.ok response)
        (.outside .body ("error decoding response body: " ++ e.message) [e.message])

def pageBody (items : List (Position Float)) : String :=
  String.ofList (Json.listText (items.map Wire.position.text))

theorem brings_pageBody {response : Response} (hcounts : response.Counts)
    {items : List (Position Float)} (hbody : response.body = pageBody items)
    (hnumbers : ∀ p ∈ items, ∀ x ∈ p.numbers, Json.floatBack x = some x) :
    Brings (.ok response) items := by
  have hmakes := (Wire.nullable_list_makes Wire.position_makes Wire.position.text_opens
    items).run (by decide)
  rw [Json.mapM_eq_some fun p hp => Position.back_eq_some (hnumbers p hp)] at hmakes
  have hread : pageReader.run response.body.toList = .ok (some items) := by
    rw [hbody, pageBody, String.toList_ofList]
    exact toOption_eq_some hmakes
  exact .page hcounts hread

/-- The page of that number, counted from one, of so many rows. -/
def slice {γ : Type} (page rows : Nat) (items : List γ) : List γ :=
  (items.drop ((page - 1) * rows)).take rows

namespace Client

def pageRequest (c : Client) (page : Nat) : Request :=
  c.request .get s!"/v1/positions/{page}/{10}" none

def linkAfter (transport : Transport κ) (c : Client) (k : κ) : Nat → κ
  | 0 => k
  | pages + 1 => (transport (c.pageRequest (pages + 1)) (linkAfter transport c k pages)).2

def replyTo (transport : Transport κ) (c : Client) (k : κ) (page : Nat) :
    Except NoResponse Response :=
  (transport (c.pageRequest page) (c.linkAfter transport k (page - 1))).1

/-- The first pages of a list are brought when they are asked for. -/
def Receives (transport : Transport κ) (c : Client) (k : κ) (pages : Nat)
    (items : List (Position Float)) : Prop :=
  ∀ page, 1 ≤ page → page ≤ pages → Brings (c.replyTo transport k page) (slice page 10 items)

def pageRequests (c : Client) (pages : Nat) : List Request :=
  (List.range' 1 pages).map c.pageRequest

theorem linkAfter_recording (transport : Transport κ) (c : Client) (k : κ) (pages : Nat) :
    c.linkAfter (recording transport) (k, []) pages =
      (c.linkAfter transport k pages, c.pageRequests pages) := by
  induction pages with
  | zero => rfl
  | succ pages ih =>
      simp only [linkAfter, ih, recording, pageRequests, List.range'_1_concat, List.map_append,
        Nat.add_comm 1 pages, List.map_cons, List.map_nil]

theorem replyTo_recording (transport : Transport κ) (c : Client) (k : κ) (page : Nat) :
    c.replyTo (recording transport) (k, []) page = c.replyTo transport k page := by
  rw [replyTo, linkAfter_recording]
  rfl

theorem Receives.recording {transport : Transport κ} {c : Client} {k : κ} {pages : Nat}
    {items : List (Position Float)} (h : c.Receives transport k pages items) :
    c.Receives (recording transport) (k, []) pages items := by
  intro page hfirst hlast
  rw [replyTo_recording]
  exact h page hfirst hlast

end Client

namespace Connection

variable {transport : Transport κ} {c : Client} {items : List (Position Float)}

def listRequests (transport : Transport κ) (s : Connection κ) : List Request :=
  (Connection.list (recording transport) ⟨s.client, (s.link, [])⟩).2.link.2

theorem positions_of_send {k k' : κ} {page : Nat} {sent : Except (Failure Float) Response}
    (h : Remote.send transport (c.pageRequest page) k = (sent, k')) :
    (⟨c, k⟩ : Connection κ).positions transport page pageRows =
      ((sent >>= decode pageReader).map (·.getD []), ⟨c, k'⟩) := by
  have hrequest : c.request .get s!"/v1/positions/{page}/{pageRows}" none = c.pageRequest page :=
    rfl
  simp only [positions, fetchList, fetch, Connection.send, hrequest, h]
  rfl

section Page

variable {k k' : κ} {page : Nat} {reply : Except NoResponse Response}
  (hcall : transport (c.pageRequest page) k = (reply, k'))

include hcall

theorem positions_of_brings {batch : List (Position Float)} (h : Brings reply batch) :
    (⟨c, k⟩ : Connection κ).positions transport page pageRows = (.ok batch, ⟨c, k'⟩) := by
  cases h with
  | page hcounts hread =>
      rw [positions_of_send (send_counts hcall hcounts)]
      simp only [bind, Except.bind, decode, hread]
      rfl

theorem positions_of_breaks {f : Failure Float} (h : Breaks reply f) :
    (⟨c, k⟩ : Connection κ).positions transport page pageRows = (.error f, ⟨c, k'⟩) := by
  cases h with
  | unanswered why =>
      rw [positions_of_send (send_unanswered hcall)]
      rfl
  | refused hcounts =>
      rw [positions_of_send (send_refused hcall hcounts)]
      rfl
  | unreadable hcounts hread =>
      rw [positions_of_send (send_counts hcall hcounts)]
      simp only [bind, Except.bind, decode, hread]
      rfl

end Page

section Branches

variable {s s' : Connection κ} {page : Nat} {batch : List (Position Float)} (pages : Nat)

theorem positionsFrom_short (h : s.positions transport page pageRows = (.ok batch, s'))
    (hshort : batch.length < 10) :
    positionsFrom transport (pages + 1) page s = (.ok batch, s') := by
  rw [positionsFrom, h]
  exact if_pos hshort

theorem positionsFrom_full (h : s.positions transport page pageRows = (.ok batch, s'))
    (hfull : ¬ batch.length < 10) :
    positionsFrom transport (pages + 1) page s =
      ((positionsFrom transport pages (page + 1) s').1.map (batch ++ ·),
        (positionsFrom transport pages (page + 1) s').2) := by
  rw [positionsFrom, h]
  exact if_neg hfull

theorem positionsFrom_failed {f : Failure Float}
    (h : s.positions transport page pageRows = (.error f, s')) :
    positionsFrom transport (pages + 1) page s = (.error f, s') := by
  rw [positionsFrom, h]

end Branches

section Pages

variable {k : κ} {pages done : Nat}

/-- The page after those that are done. -/
theorem positions_of_receives {asked : Nat} (h : c.Receives transport k asked items)
    (hdone : done < asked) :
    (⟨c, c.linkAfter transport k done⟩ : Connection κ).positions transport (done + 1) pageRows =
      (.ok ((items.drop (done * 10)).take 10), ⟨c, c.linkAfter transport k (done + 1)⟩) :=
  positions_of_brings rfl (h (done + 1) (Nat.succ_pos _) hdone)

/-- From a page on, the rest of the list is listed. -/
theorem positionsFrom_of_receives (h : c.Receives transport k (items.length / 10 + 1) items)
    (hdone : done ≤ items.length / 10) (henough : items.length / 10 + 1 ≤ done + pages) :
    positionsFrom transport pages (done + 1) ⟨c, c.linkAfter transport k done⟩ =
      (.ok (items.drop (done * 10)), ⟨c, c.linkAfter transport k (items.length / 10 + 1)⟩) := by
  induction pages generalizing done with
  | zero => omega
  | succ pages ih =>
      have hpage := positions_of_receives h (Nat.lt_succ_of_le hdone)
      have hrows : ((items.drop (done * 10)).take 10).length =
          min 10 (items.length - done * 10) := by
        rw [List.length_take, List.length_drop]
      by_cases hshort : items.length - done * 10 < 10
      · -- the page that is not full holds all that is left
        have hlast : done = items.length / 10 := by omega
        rw [positionsFrom_short pages hpage (by omega), hlast, List.take_of_length_le]
        rw [List.length_drop]
        omega
      · rw [positionsFrom_full pages hpage (by omega), ih (by omega) (by omega), Except.map,
          Nat.succ_mul, ← List.drop_drop, List.take_append_drop]

/-- The first request that fails is the last one. -/
theorem positionsFrom_of_breaks {page : Nat} {f : Failure Float}
    (h : c.Receives transport k (page - 1) items)
    (hbreaks : Breaks (c.replyTo transport k page) f) (hneeded : page ≤ items.length / 10 + 1)
    (hdone : done < page) (henough : page ≤ done + pages) :
    positionsFrom transport pages (done + 1) ⟨c, c.linkAfter transport k done⟩ =
      (.error f, ⟨c, c.linkAfter transport k page⟩) := by
  induction pages generalizing done with
  | zero => omega
  | succ pages ih =>
      rcases Nat.lt_or_eq_of_le (Nat.succ_le_of_lt hdone) with hbefore | rfl
      · have hfull : ¬ ((items.drop (done * 10)).take 10).length < 10 := by
          rw [List.length_take, List.length_drop]
          omega
        rw [positionsFrom_full pages (positions_of_receives h (by omega)) hfull,
          ih hbefore (by omega), Except.map]
      · exact positionsFrom_failed pages (positions_of_breaks rfl hbreaks)

theorem list_of_receives (hpages : items.length / 10 + 1 ≤ lastPage)
    (h : c.Receives transport k (items.length / 10 + 1) items) :
    Connection.list transport ⟨c, k⟩ =
      (.ok items, ⟨c, c.linkAfter transport k (items.length / 10 + 1)⟩) := by
  have henough : items.length / 10 + 1 ≤ 0 + lastPage := by omega
  have hlist := positionsFrom_of_receives h (Nat.zero_le _) henough
  rw [Nat.zero_mul, List.drop_zero] at hlist
  exact hlist

theorem list_of_breaks {page : Nat} {f : Failure Float} (hfirst : 1 ≤ page)
    (hneeded : page ≤ items.length / 10 + 1) (hpages : items.length / 10 + 1 ≤ lastPage)
    (h : c.Receives transport k (page - 1) items)
    (hbreaks : Breaks (c.replyTo transport k page) f) :
    Connection.list transport ⟨c, k⟩ = (.error f, ⟨c, c.linkAfter transport k page⟩) := by
  have henough : page ≤ 0 + lastPage := by omega
  exact positionsFrom_of_breaks h hbreaks hneeded hfirst henough

end Pages

end Connection

def tenPositions : List (Position Float) :=
  (List.range 10).map fun n => Stored.blankPosition (toString n) ⟨"eth", .buy⟩

end Crossover.Remote

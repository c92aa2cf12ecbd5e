import Crossover.Proofs.Json.Numbers
import Crossover.Proofs.Json.Records
import Crossover.Proofs.Time.Stamp
import Crossover.Remote.Wire

/-!
# Wire forms read back

Every field of a wire form is read as it was written, but a number comes back as what its own
text is read as, and the symbol identifier of a candle is not written. So a value comes back if
its numbers do, and is refused if one of them is not finite.
-/

namespace Crossover

open Json (Makes Pending floatBack)

theorem Stamp.escapedChar_of_isStampChar {c : Char} (h : isStampChar c = true) :
    Json.escapedChar c = [c] := by
  have hrange : c.isDigit = true ∨ c ∈ ['+', '-', '.', ':', 'T', 'Z'] := by
    simpa [isStampChar] using h
  apply Json.escapedChar_plain
  · rintro rfl
    exact absurd h (by decide)
  · rintro rfl
    exact absurd h (by decide)
  · rcases hrange with hdigit | hmark
    · have hlow : 48 ≤ c.toNat := (Char.isDigit_iff_toNat.mp hdigit).1
      omega
    · simp only [List.mem_cons, List.not_mem_nil, or_false] at hmark
      rcases hmark with rfl | rfl | rfl | rfl | rfl | rfl <;> decide

namespace Wire

theorem instantText_eq (t : Instant) : instantText t = Json.stringText (Stamp.wire t) := by
  have hplain : (Stamp.wireChars t).flatMap Json.escapedChar = Stamp.wireChars t := by
    have hall := List.all_eq_true.mp (Stamp.all_wireChars t)
    have hsame : (Stamp.wireChars t).flatMap Json.escapedChar =
        (Stamp.wireChars t).flatMap fun c => [c] := by
      rw [List.flatMap, List.flatMap, List.map_congr_left fun c hc =>
        Stamp.escapedChar_of_isStampChar (hall c hc)]
    rw [hsame, List.flatMap_singleton']
  rw [instantText, Json.stringText, Stamp.wire, String.toList_ofList, hplain]

theorem readInstant_makes (t : Instant) : Makes 0 readInstant (instantText t) (some t) := by
  intro levels _ rest _ p
  obtain ⟨p', hread⟩ := Json.Cursor.string_stringText (Stamp.wire t) rest (p.after '"')
  rw [instantText_eq, Json.stringText_append, readInstant,
    Json.Cursor.skipBlanks_cons _ _ (by decide)]
  dsimp only
  rw [Json.Cursor.advance_cons, hread]
  simp only [bind, Except.bind, Stamp.wire, String.toList_ofList, Stamp.read_wireChars]
  exact .value t p'

theorem readSide_makes (s : Side) : Makes 0 readSide (sideText s) (some s) := by
  cases s with
  | buy => exact Json.Reader.alternative_makes (by decide)
  | sell => exact Json.Reader.alternative_makes (by decide)

theorem readStatus_makes (s : Status) : Makes 0 readStatus (statusText s) (some s) := by
  cases s with
  | opened => exact Json.Reader.alternative_makes (by decide)
  | closed => exact Json.Reader.alternative_makes (by decide)

theorem readOrderKind_makes (k : OrderKind) :
    Makes 0 readOrderKind (orderKindText k) (some k) := by
  cases k with
  | market => exact Json.Reader.alternative_makes (by decide)

end Wire

def Order.numbers (o : Order Float) : List Float := [o.price, o.quantity]

def Position.numbers (p : Position Float) : List Float := p.orders.flatMap Order.numbers

def NewOrder.numbers (o : NewOrder Float) : List Float := [o.quantity]

def Candle.numbers (c : Candle Float) : List Float :=
  [c.openPrice, c.closePrice, c.low, c.high, c.volume]

def Order.back (o : Order Float) : Option (Order Float) := do
  let price ← floatBack o.price
  let quantity ← floatBack o.quantity
  return { o with price := price, quantity := quantity }

def Position.back (p : Position Float) : Option (Position Float) := do
  let orders ← p.orders.mapM Order.back
  return { p with orders := orders }

def NewOrder.back (o : NewOrder Float) : Option (NewOrder Float) := do
  let quantity ← floatBack o.quantity
  return { o with quantity := quantity }

/-- A candle does not carry its symbol identifier back. -/
def Candle.back (c : Candle Float) : Option (Candle Float) := do
  let openPrice ← floatBack c.openPrice
  let closePrice ← floatBack c.closePrice
  let low ← floatBack c.low
  let high ← floatBack c.high
  let volume ← floatBack c.volume
  return { c with
    symbolId := "", openPrice := openPrice, closePrice := closePrice, low := low, high := high,
    volume := volume }

namespace Wire

open Json (Reader)

theorem order_makes (o : Order Float) : Makes 1 order.read (order.text o) o.back := by
  have hpending : Pending 0 order.fields (Json.Record.noSlots _)
      (Json.Record.fieldTexts order.fields (order.toValues o)) _ :=
    .due (Reader.text_makes o.id) <|
    .due (Reader.text_makes o.symbolId) <|
    .due (Reader.text_makes o.positionId) <|
    .due (readInstant_makes o.creationTime) <|
    .due (Reader.floatText_makes o.price) <|
    .due (Reader.floatText_makes o.quantity) <|
    .due (Reader.text_makes o.status) <|
    .due (readOrderKind_makes o.kind) <|
    .due (readSide_makes o.side) .nil
  have hmakes := order.read_makes o (by decide) hpending
  revert hmakes
  unfold Order.back
  rcases floatBack o.price with _ | price
  · exact id
  rcases floatBack o.quantity with _ | quantity
  · exact id
  · exact id

theorem newOrder_makes (o : NewOrder Float) : Makes 1 newOrder.read (newOrder.text o) o.back := by
  have hpending : Pending 0 newOrder.fields (Json.Record.noSlots _)
      (Json.Record.fieldTexts newOrder.fields (newOrder.toValues o)) _ :=
    .due (Reader.text_makes o.positionId) <|
    .due (Reader.floatText_makes o.quantity) <|
    .due (readSide_makes o.side) .nil
  have hmakes := newOrder.read_makes o (by decide) hpending
  revert hmakes
  unfold NewOrder.back
  rcases floatBack o.quantity with _ | quantity
  · exact id
  · exact id

theorem newPosition_makes (p : NewPosition) :
    Makes 1 newPosition.read (newPosition.text p) (some p) := by
  have hpending : Pending 0 newPosition.fields (Json.Record.noSlots _)
      (Json.Record.fieldTexts newPosition.fields (newPosition.toValues p)) _ :=
    .due (Reader.text_makes p.symbolId) <|
    .due (readSide_makes p.side) .nil
  exact newPosition.read_makes p (by decide) hpending

theorem candle_makes (c : Candle Float) : Makes 1 candle.read (candle.text c) c.back := by
  have hpending : Pending 0 candle.fields (Json.Record.noSlots _)
      (Json.Record.fieldTexts candle.fields (candle.toValues c)) _ :=
    .due (Reader.text_makes c.id) <|
    .settled rfl <|
    .due (Reader.text_makes c.symbol) <|
    .due (Reader.text_makes c.interval) <|
    .due (readInstant_makes c.openTime) <|
    .due (Reader.floatText_makes c.openPrice) <|
    .due (Reader.floatText_makes c.closePrice) <|
    .due (readInstant_makes c.closeTime) <|
    .due (Reader.floatText_makes c.low) <|
    .due (Reader.floatText_makes c.high) <|
    .due (Reader.floatText_makes c.volume) .nil
  have hmakes := candle.read_makes c (by decide) hpending
  revert hmakes
  unfold Candle.back
  rcases floatBack c.openPrice with _ | openPrice
  · exact id
  rcases floatBack c.closePrice with _ | closePrice
  · exact id
  rcases floatBack c.low with _ | low
  · exact id
  rcases floatBack c.high with _ | high
  · exact id
  rcases floatBack c.volume with _ | volume
  · exact id
  · exact id

/-- A list that is written is no null. -/
theorem nullable_list_makes {α : Type} {depth : Nat} {item : Reader α} {write : α → List Char}
    {back : α → Option α} (hitem : ∀ a, Makes depth item (write a) (back a))
    (hopens : ∀ a, Json.Opens (write a)) (as : List α) :
    Makes (depth + 1) (Reader.nullable (Reader.list item)) (Json.listText (as.map write))
      ((as.mapM back).map some) := by
  intro levels hlevels rest hrest p
  have hleaves := Reader.list_makes hitem hopens as levels hlevels rest hrest p
  rw [Json.listText_append] at hleaves ⊢
  dsimp only [Reader.nullable]
  rw [Json.Cursor.skipBlanks_cons _ _ (by decide)]
  generalize Reader.list item levels _ = reply at hleaves ⊢
  generalize as.mapM back = o at hleaves ⊢
  cases hleaves with
  | value items p' => exact .value (some items) p'
  | failure e => exact .failure e

theorem listOrNull_makes {α : Type} {depth : Nat} {item : Reader α} {write : α → List Char}
    {back : α → Option α} (name : String) (hitem : ∀ a, Makes depth item (write a) (back a))
    (hopens : ∀ a, Json.Opens (write a)) (as : List α) :
    Makes (depth + 1) (listOrNull name item write).read (Json.listText (as.map write))
      (as.mapM back) := by
  intro levels hlevels rest hrest p
  have hleaves := nullable_list_makes hitem hopens as levels hlevels rest hrest p
  dsimp only [listOrNull, optional]
  generalize Reader.nullable (Reader.list item) levels _ = reply at hleaves ⊢
  generalize as.mapM back = o at hleaves ⊢
  cases o with
  | none => cases hleaves with | failure e => exact .failure e
  | some items => cases hleaves with | value found p' => exact .value items p'

theorem position_makes (p : Position Float) :
    Makes 3 position.read (position.text p) p.back := by
  have hpending : Pending 2 position.fields (Json.Record.noSlots _)
      (Json.Record.fieldTexts position.fields (position.toValues p)) _ :=
    .due ((Reader.text_makes p.id).mono (Nat.zero_le _)) <|
    .due ((Reader.text_makes p.symbolId).mono (Nat.zero_le _)) <|
    .due ((readSide_makes p.side).mono (Nat.zero_le _)) <|
    .due ((readStatus_makes p.status).mono (Nat.zero_le _)) <|
    .due ((readInstant_makes p.creationTime).mono (Nat.zero_le _)) <|
    .due ((Reader.text_makes p.user).mono (Nat.zero_le _)) <|
    .due ((Reader.text_makes p.symbol).mono (Nat.zero_le _)) <|
    .due (listOrNull_makes "orders" order_makes order.text_opens p.orders) .nil
  have hmakes := position.read_makes p (by decide) hpending
  revert hmakes
  unfold Position.back
  rcases p.orders.mapM Order.back with _ | orders
  · exact id
  · exact id

end Wire

/-! ## The whole text -/

/-- Reading the text of a value gives the value back, less what is not written, as long as each
of its numbers is read back from its own text; a value with a number that is not finite is
refused. -/
structure RoundTrips {ρ : Type} (r : Json.Record ρ) (numbers : ρ → List Float) (written : ρ → ρ) :
    Prop where
  back : ∀ a, (∀ x ∈ numbers a, Json.Reader.float.run (Json.floatText x) = .ok x) →
    r.read.run (r.text a) = .ok (written a)
  refused : ∀ a, (∃ x ∈ numbers a, Binary64.isFinite x.toBits = false) →
    ∃ e, r.read.run (r.text a) = .error e

theorem toOption_eq_some {ε α : Type} {x : Except ε α} {a : α} (h : x.toOption = some a) :
    x = .ok a := by
  cases x with
  | error e => cases h
  | ok b => rw [Option.some.inj h]

theorem toOption_eq_none {ε α : Type} {x : Except ε α} (h : x.toOption = none) :
    ∃ e, x = .error e := by
  cases x with
  | error e => exact ⟨e, rfl⟩
  | ok b => cases h

theorem RoundTrips.of_makes {ρ : Type} {r : Json.Record ρ} {numbers : ρ → List Float}
    {written : ρ → ρ} {depth : Nat} {back : ρ → Option ρ} (hdepth : depth ≤ Json.allLevels)
    (hmakes : ∀ a, Makes depth r.read (r.text a) (back a))
    (hback : ∀ a, (∀ x ∈ numbers a, floatBack x = some x) → back a = some (written a))
    (hnumbers : ∀ a b, back a = some b → ∀ x ∈ numbers a, floatBack x ≠ none) :
    RoundTrips r numbers written := by
  constructor
  · intro a hcodec
    have hkept : back a = some (written a) := hback a fun x hx => by
      rw [floatBack, hcodec x hx]
      rfl
    exact toOption_eq_some (((hmakes a).run hdepth).trans hkept)
  · rintro a ⟨x, hx, hinfinite⟩
    have hlost : back a = none := by
      rw [Option.eq_none_iff_forall_ne_some]
      intro b hb
      exact hnumbers a b hb x hx (Json.floatBack_of_not_finite hinfinite)
    exact toOption_eq_none (((hmakes a).run hdepth).trans hlost)

theorem Order.back_eq_some {o : Order Float} (h : ∀ x ∈ o.numbers, floatBack x = some x) :
    o.back = some o := by
  have hprice := h o.price (by simp [numbers])
  have hquantity := h o.quantity (by simp [numbers])
  rw [back, hprice, hquantity]
  rfl

theorem Order.numbers_of_back {o o' : Order Float} (h : o.back = some o') :
    ∀ x ∈ o.numbers, floatBack x ≠ none := by
  obtain ⟨price, hprice, h⟩ := Option.bind_eq_some_iff.mp h
  obtain ⟨quantity, hquantity, -⟩ := Option.bind_eq_some_iff.mp h
  simp [numbers, hprice, hquantity]

theorem NewOrder.back_eq_some {o : NewOrder Float} (h : ∀ x ∈ o.numbers, floatBack x = some x) :
    o.back = some o := by
  have hquantity := h o.quantity (by simp [numbers])
  rw [back, hquantity]
  rfl

theorem NewOrder.numbers_of_back {o o' : NewOrder Float} (h : o.back = some o') :
    ∀ x ∈ o.numbers, floatBack x ≠ none := by
  obtain ⟨quantity, hquantity, -⟩ := Option.bind_eq_some_iff.mp h
  simp [numbers, hquantity]

theorem Candle.back_eq_some {c : Candle Float} (h : ∀ x ∈ c.numbers, floatBack x = some x) :
    c.back = some { c with symbolId := "" } := by
  have hopen := h c.openPrice (by simp [numbers])
  have hclose := h c.closePrice (by simp [numbers])
  have hlow := h c.low (by simp [numbers])
  have hhigh := h c.high (by simp [numbers])
  have hvolume := h c.volume (by simp [numbers])
  rw [back, hopen, hclose, hlow, hhigh, hvolume]
  rfl

theorem Candle.numbers_of_back {c c' : Candle Float} (h : c.back = some c') :
    ∀ x ∈ c.numbers, floatBack x ≠ none := by
  obtain ⟨openPrice, hopen, h⟩ := Option.bind_eq_some_iff.mp h
  obtain ⟨closePrice, hclose, h⟩ := Option.bind_eq_some_iff.mp h
  obtain ⟨low, hlow, h⟩ := Option.bind_eq_some_iff.mp h
  obtain ⟨high, hhigh, h⟩ := Option.bind_eq_some_iff.mp h
  obtain ⟨volume, hvolume, -⟩ := Option.bind_eq_some_iff.mp h
  simp [numbers, hopen, hclose, hlow, hhigh, hvolume]

theorem Position.back_eq_some {p : Position Float}
    (h : ∀ x ∈ p.numbers, floatBack x = some x) : p.back = some p := by
  have horders : p.orders.mapM Order.back = some p.orders :=
    Json.mapM_eq_some fun o ho => Order.back_eq_some fun x hx =>
      h x (List.mem_flatMap.mpr ⟨o, ho, hx⟩)
  rw [back, horders]
  rfl

theorem Position.numbers_of_back {p p' : Position Float} (h : p.back = some p') :
    ∀ x ∈ p.numbers, floatBack x ≠ none := by
  obtain ⟨orders, horders, -⟩ := Option.bind_eq_some_iff.mp h
  intro x hx
  obtain ⟨o, ho, hx⟩ := List.mem_flatMap.mp hx
  obtain ⟨o', hback⟩ := Json.exists_of_mapM_eq_some horders ho
  exact Order.numbers_of_back hback x hx

/-- An order of the year 10000, filled in a leap second, with characters that need an escape. -/
def Order.awkward (price : Float) : Order Float where
  id := "a\"b\\c"
  symbolId := "é\n\t"
  positionId := "\x01\x1f"
  creationTime := { second := 253402300859, nano := 1000000001 }
  price := price
  quantity := -1.25
  status := "FILLED"
  kind := .market
  side := .sell

def Position.awkward (price : Float) : Position Float where
  id := "\"id\""
  symbolId := ""
  side := .buy
  status := .closed
  creationTime := { second := -8334601228800, nano := 500000000 }
  user := "bot"
  symbol := "ETHUSDT"
  orders := [.awkward price, { Order.awkward price with side := .buy, quantity := 0.5 }]

theorem Position.awkward_numbers (price : Float) :
    (Position.awkward price).numbers = [price, -1.25, price, 0.5] := rfl

end Crossover

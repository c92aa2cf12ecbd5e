import Mathlib.Data.List.Forall2
import Crossover.Market.Kline
import Crossover.Proofs.Json.Values

/-!
# Klines are read exactly

A kline dump is the text of a list of rows. It is read just if every row has its seven fields and
each of them is a number or a text that reads as one; then each row gives its own bar, from these
fields alone. Otherwise the first bad row is named, and in it the length or the first bad field.
-/

namespace Crossover.Kline

open Json (Value Reader Number IsText)

/-! ## Fields -/

/-- The field is a number, or a text that reads as one. -/
inductive Reads : Value → Float → Prop
  | number (n : Number) : Reads (.number n) n.toFloat
  | text {s : String} {x : Float} : NumberText.float? s.toList = some x → Reads (.string s) x

def Readable (v : Value) : Prop := ∃ x, Reads v x

def ReadsAt (fields : List Value) (i : Nat) (x : Float) : Prop :=
  ∃ v, fields[i]? = some v ∧ Reads v x

theorem number?_eq_some_iff (v : Value) (x : Float) : number? v = some x ↔ Reads v x := by
  constructor
  · intro h
    cases v with
    | number n =>
        cases h
        exact .number n
    | string s => exact .text h
    | _ => cases h
  · intro h
    cases h with
    | number n => rfl
    | text h => exact h

theorem Reads.unique {v : Value} {x y : Float} (hx : Reads v x) (hy : Reads v y) : x = y :=
  Option.some.inj (((number?_eq_some_iff v x).mpr hx).symm.trans ((number?_eq_some_iff v y).mpr hy))

theorem ReadsAt.unique {fields : List Value} {i : Nat} {x y : Float} (hx : ReadsAt fields i x)
    (hy : ReadsAt fields i y) : x = y := by
  obtain ⟨v, hv, hx⟩ := hx
  obtain ⟨w, hw, hy⟩ := hy
  cases hv.symm.trans hw
  exact hx.unique hy

theorem ReadsAt.take_iff {fields : List Value} {n i : Nat} (hi : i < n) (x : Float) :
    ReadsAt (fields.take n) i x ↔ ReadsAt fields i x := by
  simp only [ReadsAt, List.getElem?_take_of_lt hi]

theorem number_eq_ok_iff (column : Column) (v : Value) (x : Float) :
    number column v = .ok x ↔ Reads v x := by
  rw [← number?_eq_some_iff, number]
  cases number? v with
  | none => simp
  | some y => simp

theorem number_of_not_readable {v : Value} (h : ¬ Readable v) (column : Column) :
    number column v = .error (.notANumber column v) := by
  unfold number
  split
  · next x hx => exact absurd ⟨x, (number?_eq_some_iff v x).mp hx⟩ h
  · rfl

/-! ## Rows -/

/-- The row has its seven fields, all readable. -/
structure Complete (fields : List Value) : Prop where
  seven : 7 ≤ fields.length
  readable : ∀ v ∈ fields.take 7, Readable v

/-- The bar of a row. It belongs to no market yet. -/
structure IsBar (fields : List Value) (bar : Candle Float) : Prop where
  openTime : ∃ x, ReadsAt fields 0 x ∧ bar.openTime = .ofMillis (clampedTruncation x)
  openPrice : ReadsAt fields 1 bar.openPrice
  high : ReadsAt fields 2 bar.high
  low : ReadsAt fields 3 bar.low
  closePrice : ReadsAt fields 4 bar.closePrice
  volume : ReadsAt fields 5 bar.volume
  closeTime : ∃ x, ReadsAt fields 6 x ∧ bar.closeTime = .ofMillis (clampedTruncation x)
  texts : bar.id = "" ∧ bar.symbolId = "" ∧ bar.symbol = "" ∧ bar.interval = ""

def names : List String := ["open_time", "open", "high", "low", "close", "volume", "close_time"]

/-- The reason for which a row is refused: its length, or else its first bad field. -/
inductive Blames (fields : List Value) : String → Prop
  | tooShort : fields.length < 7 →
      Blames fields s!"expected at least 7 fields, got {fields.length}"
  | notANumber {before after : List Value} {v : Value} {name : String} : 7 ≤ fields.length →
      fields = before ++ v :: after → names[before.length]? = some name →
      (∀ w ∈ before, Readable w) → ¬ Readable v →
      Blames fields s!"{name} is not a number: {String.ofList v.text}"

theorem IsBar.unique {fields : List Value} {bar bar' : Candle Float} (h : IsBar fields bar)
    (h' : IsBar fields bar') : bar = bar' := by
  obtain ⟨x, hx, hopen⟩ := h.openTime
  obtain ⟨x', hx', hopen'⟩ := h'.openTime
  obtain ⟨y, hy, hclose⟩ := h.closeTime
  obtain ⟨y', hy', hclose'⟩ := h'.closeTime
  rw [← hx.unique hx'] at hopen'
  rw [← hy.unique hy'] at hclose'
  have hprice := h.openPrice.unique h'.openPrice
  have hhigh := h.high.unique h'.high
  have hlow := h.low.unique h'.low
  have hclosePrice := h.closePrice.unique h'.closePrice
  have hvolume := h.volume.unique h'.volume
  obtain ⟨hid, hsymbolId, hsymbol, hinterval⟩ := h.texts
  obtain ⟨hid', hsymbolId', hsymbol', hinterval'⟩ := h'.texts
  cases bar
  cases bar'
  simp_all only

theorem IsBar.of_readsAt {fields fields' : List Value} {bar : Candle Float}
    (hread : ∀ i < 7, ∀ x, ReadsAt fields i x → ReadsAt fields' i x) (h : IsBar fields bar) :
    IsBar fields' bar := by
  obtain ⟨x, hx, hopen⟩ := h.openTime
  obtain ⟨y, hy, hclose⟩ := h.closeTime
  exact {
    openTime := ⟨x, hread 0 (by decide) x hx, hopen⟩
    openPrice := hread 1 (by decide) _ h.openPrice
    high := hread 2 (by decide) _ h.high
    low := hread 3 (by decide) _ h.low
    closePrice := hread 4 (by decide) _ h.closePrice
    volume := hread 5 (by decide) _ h.volume
    closeTime := ⟨y, hread 6 (by decide) y hy, hclose⟩
    texts := h.texts }

/-- Fields after the seventh do not matter. -/
theorem IsBar.take_iff (fields : List Value) (bar : Candle Float) :
    IsBar (fields.take 7) bar ↔ IsBar fields bar :=
  ⟨.of_readsAt fun _ hi x => (ReadsAt.take_iff hi x).mp,
    .of_readsAt fun _ hi x => (ReadsAt.take_iff hi x).mpr⟩

theorem IsBar.exists_readsAt {fields : List Value} {bar : Candle Float} (h : IsBar fields bar)
    {i : Nat} (hi : i < 7) : ∃ x, ReadsAt fields i x := by
  obtain ⟨x, hx, -⟩ := h.openTime
  obtain ⟨y, hy, -⟩ := h.closeTime
  match i, hi with
  | 0, _ => exact ⟨x, hx⟩
  | 1, _ => exact ⟨_, h.openPrice⟩
  | 2, _ => exact ⟨_, h.high⟩
  | 3, _ => exact ⟨_, h.low⟩
  | 4, _ => exact ⟨_, h.closePrice⟩
  | 5, _ => exact ⟨_, h.volume⟩
  | 6, _ => exact ⟨y, hy⟩

theorem IsBar.complete {fields : List Value} {bar : Candle Float} (h : IsBar fields bar) :
    Complete fields where
  seven := by
    obtain ⟨_, v, hv, _⟩ := h.exists_readsAt (i := 6) (by decide)
    exact (List.getElem?_eq_some_iff.mp hv).1
  readable := by
    intro v hv
    obtain ⟨i, hi, rfl⟩ := List.mem_take_iff_getElem.mp hv
    obtain ⟨hseven, hlength⟩ := Nat.lt_min.mp hi
    obtain ⟨x, w, hw, hx⟩ := h.exists_readsAt hseven
    rw [List.getElem?_eq_getElem hlength] at hw
    cases hw
    exact ⟨x, hx⟩

theorem Blames.not_complete {fields : List Value} {reason : String} (h : Blames fields reason) :
    ¬ Complete fields := by
  intro hcomplete
  cases h with
  | tooShort hshort => exact Nat.not_le.mpr hshort hcomplete.seven
  | @notANumber before after v name _ hfields hname _ hbad =>
      have hlt : before.length < 7 := (List.getElem?_eq_some_iff.mp hname).1
      have hmem : v ∈ fields.take 7 := by
        rw [hfields, List.take_append, List.mem_append]
        right
        obtain ⟨k, hk⟩ := Nat.exists_eq_succ_of_ne_zero (Nat.sub_ne_zero_of_lt hlt)
        rw [hk]
        exact List.mem_cons_self
      exact hbad (hcomplete.readable v hmem)

/-- What becomes of a row: its bar, or a reason to refuse it. -/
inductive Outcome (fields : List Value) : Except Defect Row → Prop
  | bar {r : Row} : IsBar fields r.toCandle → Outcome fields (.ok r)
  | refused {defect : Defect} : Blames fields defect.reason → Outcome fields (.error defect)

/-- The next field is the first bad one, or it is read too. -/
theorem Outcome.field {fields before after : List Value} {v : Value} {column : Column}
    {next : Float → Except Defect Row} (hseven : 7 ≤ fields.length)
    (hfields : fields = before ++ v :: after) (hname : names[before.length]? = some column.name)
    (hbefore : ∀ w ∈ before, Readable w)
    (hnext : ∀ x, Reads v x → (∀ w ∈ before ++ [v], Readable w) → Outcome fields (next x)) :
    Outcome fields (number column v >>= next) := by
  by_cases hv : Readable v
  · obtain ⟨x, hx⟩ := hv
    rw [(number_eq_ok_iff column v x).mpr hx]
    refine hnext x hx fun w hw => ?_
    rcases List.mem_append.mp hw with hw | hw
    · exact hbefore w hw
    · rw [List.mem_singleton.mp hw]
      exact ⟨x, hx⟩
  · rw [number_of_not_readable hv]
    exact .refused (.notANumber hseven hfields hname hbefore hv)

theorem row_outcome (fields : List Value) : Outcome fields (row fields) := by
  match fields with
  | [] | [_] | [_, _] | [_, _, _] | [_, _, _, _] | [_, _, _, _, _] | [_, _, _, _, _, _] =>
      exact .refused (.tooShort (by simp))
  | a :: b :: c :: d :: e :: f :: g :: more =>
      have hseven : 7 ≤ (a :: b :: c :: d :: e :: f :: g :: more).length := by simp
      have hnone : ∀ w ∈ ([] : List Value), Readable w := by simp
      refine .field hseven rfl rfl hnone fun x₀ h₀ hread => ?_
      refine .field hseven rfl rfl hread fun x₁ h₁ hread => ?_
      refine .field hseven rfl rfl hread fun x₂ h₂ hread => ?_
      refine .field hseven rfl rfl hread fun x₃ h₃ hread => ?_
      refine .field hseven rfl rfl hread fun x₄ h₄ hread => ?_
      refine .field hseven rfl rfl hread fun x₅ h₅ hread => ?_
      refine .field hseven rfl rfl hread fun x₆ h₆ _ => ?_
      exact .bar {
        openTime := ⟨x₀, ⟨a, rfl, h₀⟩, rfl⟩
        openPrice := ⟨b, rfl, h₁⟩
        high := ⟨c, rfl, h₂⟩
        low := ⟨d, rfl, h₃⟩
        closePrice := ⟨e, rfl, h₄⟩
        volume := ⟨f, rfl, h₅⟩
        closeTime := ⟨x₆, ⟨g, rfl, h₆⟩, rfl⟩
        texts := ⟨rfl, rfl, rfl, rfl⟩ }

/-! ## Dumps -/

/-- The rows give these bars, one by one and in their order. -/
theorem candles_eq_ok_iff (index : Nat) (rows : List (List Value)) (bars : List (Candle Float)) :
    candles index rows = .ok bars ↔ List.Forall₂ IsBar rows bars := by
  induction rows generalizing index bars with
  | nil =>
      constructor
      · intro h
        cases h
        exact .nil
      · intro h
        cases h
        rfl
  | cons fields rows ih =>
      have houtcome := row_outcome fields
      rw [candles]
      generalize row fields = result at houtcome
      cases houtcome with
      | @bar r hbar =>
          dsimp only
          constructor
          · intro h
            cases hrest : candles (index + 1) rows with
            | error fault =>
                rw [hrest] at h
                cases h
            | ok rest =>
                rw [hrest] at h
                cases h
                exact .cons hbar ((ih (index + 1) rest).mp hrest)
          · intro h
            obtain _ | @⟨_, bar, _, rest, hbar', hrest⟩ := h
            rw [(ih (index + 1) rest).mpr hrest, hbar.unique hbar']
            rfl
      | refused hblames =>
          constructor
          · intro h
            cases h
          · intro h
            obtain _ | ⟨hbar, _⟩ := h
            exact absurd hbar.complete hblames.not_complete

theorem exists_bar {fields : List Value} (h : Complete fields) : ∃ bar, IsBar fields bar := by
  have houtcome := row_outcome fields
  generalize row fields = result at houtcome
  cases houtcome with
  | @bar r hbar => exact ⟨r.toCandle, hbar⟩
  | refused hblames => exact absurd h hblames.not_complete

theorem exists_candles_iff (index : Nat) (rows : List (List Value)) :
    (∃ bars, candles index rows = .ok bars) ↔ ∀ fields ∈ rows, Complete fields := by
  simp only [candles_eq_ok_iff]
  constructor
  · rintro ⟨bars, h⟩
    induction h with
    | nil => simp
    | cons hbar _ ih =>
        intro fields hmem
        rcases List.mem_cons.mp hmem with rfl | hmem
        · exact hbar.complete
        · exact ih fields hmem
  · intro h
    induction rows with
    | nil => exact ⟨[], .nil⟩
    | cons fields rows ih =>
        obtain ⟨bar, hbar⟩ := exists_bar (h fields List.mem_cons_self)
        obtain ⟨bars, hbars⟩ := ih fun row hrow => h row (List.mem_cons_of_mem fields hrow)
        exact ⟨bar :: bars, .cons hbar hbars⟩

/-- The first row that is not complete is named, with the reason it gives. -/
theorem candles_first_bad (index : Nat) {before after : List (List Value)} {fields : List Value}
    (hbefore : ∀ row ∈ before, Complete row) (hfields : ¬ Complete fields) :
    ∃ reason, Blames fields reason ∧
      candles index (before ++ fields :: after) =
        .error (.malformedKline (index + before.length) reason) := by
  induction before generalizing index with
  | nil =>
      have houtcome := row_outcome fields
      rw [List.nil_append, candles]
      generalize row fields = result at houtcome
      cases houtcome with
      | bar hbar => exact absurd hbar.complete hfields
      | @refused defect hblames => exact ⟨defect.reason, hblames, rfl⟩
  | cons first before ih =>
      have houtcome := row_outcome first
      obtain ⟨reason, hblames, herror⟩ := ih (index + 1) fun row hrow =>
        hbefore row (List.mem_cons_of_mem first hrow)
      refine ⟨reason, hblames, ?_⟩
      rw [List.cons_append, candles]
      generalize row first = result at houtcome
      cases houtcome with
      | bar =>
          dsimp only
          rw [herror, List.length_cons, Nat.add_assoc, Nat.add_comm 1]
          rfl
      | refused hfirst =>
          exact absurd (hbefore first List.mem_cons_self) hfirst.not_complete

def IsDump (rows : List (List Value)) (text : String) : Prop :=
  IsText (.list (rows.map .list)) text.toList

theorem parse_of_isDump {rows : List (List Value)} {text : String} (h : IsDump rows text) :
    parse text = candles 0 rows := by
  rw [parse, (Json.run_lists_eq_ok_iff rows text.toList).mpr h]

/-- A text that is no dump counts as malformed at the first row. A dump is read just if all its
rows are complete, and then gives the bar of each row; else its first incomplete row is named. -/
theorem parse_exact (text : String) :
    ((∀ rows, ¬ IsDump rows text) → ∃ reason, parse text = .error (.malformedKline 0 reason)) ∧
      ∀ rows, IsDump rows text →
        ((∃ bars, parse text = .ok bars) ↔ ∀ fields ∈ rows, Complete fields) ∧
        (∀ bars, parse text = .ok bars ↔ List.Forall₂ IsBar rows bars) ∧
        (∀ fields bar, IsBar (fields.take 7) bar ↔ IsBar fields bar) ∧
        ∀ before fields after, rows = before ++ fields :: after →
          (∀ row ∈ before, Complete row) → ¬ Complete fields →
          ∃ reason, Blames fields reason ∧
            parse text = .error (.malformedKline before.length reason) := by
  refine ⟨fun hnone => ?_, fun rows hrows => ?_⟩
  · unfold parse
    cases hread : (Reader.list (Reader.list Value.read)).run text.toList with
    | error e => exact ⟨e.message, rfl⟩
    | ok rows => exact absurd ((Json.run_lists_eq_ok_iff rows text.toList).mp hread) (hnone rows)
  · rw [parse_of_isDump hrows]
    refine ⟨exists_candles_iff 0 rows, candles_eq_ok_iff 0 rows, IsBar.take_iff, ?_⟩
    rintro before fields after rfl hbefore hfields
    obtain ⟨reason, hblames, herror⟩ := candles_first_bad 0 hbefore hfields
    rw [Nat.zero_add] at herror
    exact ⟨reason, hblames, herror⟩

/-! ## The range of numbers -/

/-- A number of any size, held as its text. -/
def IsNumeral (digits t : List Char) : Prop :=
  digits = t ∧ ∃ negative whole fraction exponent,
    Json.SpellsNumeral negative whole fraction exponent t

instance decidableEqError {ε α : Type} [DecidableEq ε] (x : Except ε α) (e : ε) :
    Decidable (x = .error e) :=
  match x with
  | .error e' => decidable_of_iff (e' = e) (by simp)
  | .ok _ => .isFalse (by simp)

theorem isNumeral_digit {d : Char} (h : d.isDigit = true) : IsNumeral [d] [d] := by
  refine ⟨rfl, false, [d], [], none, ?_⟩
  have hwhole : Json.SpellsWhole [d] := by
    by_cases hd : d = '0'
    · rw [hd]
      exact .zero
    · exact .digits (by simpa [Json.AllDigits] using h) hd
  exact .parts .none hwhole .none .none

theorem isNumeral_beyond_range : IsNumeral ['1', 'e', '3', '0', '9'] ['1', 'e', '3', '0', '9'] := by
  refine ⟨rfl, false, ['1'], [], some (false, ['3', '0', '9']), ?_⟩
  have hexponent : Json.SpellsExponent (some (false, ['3', '0', '9'])) ['e', '3', '0', '9'] :=
    .digits rfl .none (by simp [Json.AllDigits])
  exact .parts .none (.digits (by simp [Json.AllDigits]) (by decide)) .none hexponent

theorem spellsList_of_isNumeral {ts : List (List Char)} (h : ∀ t ∈ ts, IsNumeral t t) :
    Json.SpellsList IsNumeral ts (Json.listText ts) := by
  have hlist := @Json.SpellsList.of_written _ IsNumeral id ts h
  rwa [List.map_id] at hlist

/-- A list of eight numbers is refused for the size of the eighth, which is no part of the bar;
without it the row is read. -/
theorem eighth_number_refused :
    let row := ["1", "2", "3", "4", "5", "6", "7", "1e309"].map String.toList
    Json.SpellsList (Json.SpellsList IsNumeral) [row] "[[1,2,3,4,5,6,7,1e309]]".toList ∧
      parse "[[1,2,3,4,5,6,7,1e309]]" =
        .error (.malformedKline 0 "number out of range at line 1 column 21") ∧
      (parse "[[1,2,3,4,5,6,7]]").isOk = true := by
  intro row
  refine ⟨?_, ?_, by decide +kernel⟩
  · have hsplit : row = ['1', '2', '3', '4', '5', '6', '7'].map (fun d => [d]) ++
        [['1', 'e', '3', '0', '9']] := by decide
    have hdigits : ∀ d ∈ ['1', '2', '3', '4', '5', '6', '7'], d.isDigit = true :=
      List.all_eq_true.mp (by decide)
    have hrow : ∀ t ∈ row, IsNumeral t t := by
      intro t ht
      rw [hsplit] at ht
      rcases List.mem_append.mp ht with ht | ht
      · obtain ⟨d, hd, rfl⟩ := List.mem_map.mp ht
        exact isNumeral_digit (hdigits d hd)
      · rw [List.mem_singleton.mp ht]
        exact isNumeral_beyond_range
    have hrows : Json.SpellsList (Json.SpellsList IsNumeral) [row]
        (Json.listText ([row].map Json.listText)) := by
      apply Json.SpellsList.of_written
      intro ts hts
      rw [List.mem_singleton.mp hts]
      exact spellsList_of_isNumeral hrow
    have htext : "[[1,2,3,4,5,6,7,1e309]]".toList = Json.listText ([row].map Json.listText) := by
      decide
    rw [htext]
    exact hrows
  · have hrun : (Reader.list (Reader.list Value.read)).run "[[1,2,3,4,5,6,7,1e309]]".toList =
        .error ⟨.numberOutOfRange, ⟨1, 21⟩⟩ := by decide +kernel
    rw [parse, hrun]
    rfl

end Crossover.Kline

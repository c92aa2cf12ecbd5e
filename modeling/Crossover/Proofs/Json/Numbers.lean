import Crossover.Proofs.Json.NumberTexts

/-!
# Numbers read back

The text of a number is a sign, digits, decimals and an exponent, and the reader goes through
these parts one after the other. So it reads a number to its end, and what it makes of the text
does not depend on what comes after it.
-/

namespace Crossover.Json

open Text (PastDigits)

/-- A reader makes one and the same of a text wherever the text stands. -/
def Settled {α : Type} (r : Cursor → Except Error (α × Cursor)) (t : List Char) : Prop :=
  ∃ o, ∀ rest, Delimited rest → ∀ p, Leaves rest o (r ⟨t ++ rest, p⟩)

theorem Delimited.ends {rest : List Char} (h : Delimited rest) : Cursor.Ends rest :=
  fun c hc => .inr (h c hc)

theorem Delimited.pastDigits {rest : List Char} (h : Delimited rest) : PastDigits rest := by
  intro c hc
  rcases h c hc with rfl | rfl | rfl
  · rfl
  · rfl
  · rfl

theorem Leaves.of_error {α : Type} {rest : List Char} {x : Except Error (α × Cursor)}
    (h : ∃ e, x = .error e) : Leaves rest none x := by
  obtain ⟨e, rfl⟩ := h
  exact .failure e

inductive ExponentPart : List Char → Prop
  | none : ExponentPart []
  | some {sign d : Char} {ds : List Char} : sign = '+' ∨ sign = '-' →
      (∀ c ∈ d :: ds, c.isDigit = true) → ExponentPart ('e' :: sign :: d :: ds)

theorem ExponentPart.spells {tail : List Char} (h : ExponentPart tail) :
    ∃ exponent, SpellsExponent exponent tail := by
  cases h with
  | none => exact ⟨_, .none⟩
  | some hsign hdigits =>
      rcases hsign with rfl | rfl
      · exact ⟨_, .digits rfl .plus hdigits⟩
      · exact ⟨_, .digits rfl .minus hdigits⟩

inductive DecimalPart : List Char → Prop
  | none : DecimalPart []
  | some {ds : List Char} : (∀ c ∈ ds, c.isDigit = true) → DecimalPart ('.' :: ds)

theorem ExponentPart.pastDigits {tail rest : List Char} (h : ExponentPart tail)
    (hrest : Delimited rest) : PastDigits (tail ++ rest) := by
  cases h with
  | none => exact hrest.pastDigits
  | some => exact .cons rfl _

theorem DecimalPart.pastDigits {decimals tail rest : List Char} (h : DecimalPart decimals)
    (htail : ExponentPart tail) (hrest : Delimited rest) :
    PastDigits (decimals ++ (tail ++ rest)) := by
  cases h with
  | none => exact htail.pastDigits hrest
  | some => exact .cons rfl _

/-- There are no digits, or a zero leads them, or they may stand before a point. -/
theorem whole_cases {ds : List Char} (hdigits : AllDigits ds) :
    ds = [] ∨ (∃ more, ds = '0' :: more ∧ more ≠ []) ∨ SpellsWhole ds := by
  cases ds with
  | nil => exact .inl rfl
  | cons d more =>
      by_cases hd : d = '0'
      · by_cases hmore : more = []
        · rw [hd, hmore]
          exact .inr (.inr .zero)
        · exact .inr (.inl ⟨more, by rw [hd], hmore⟩)
      · exact .inr (.inr (.digits hdigits hd))

theorem SpellsWhole.exists_cons {whole : List Char} (h : SpellsWhole whole) :
    ∃ d more, whole = d :: more ∧ ¬ (d = '0' ∧ !more.isEmpty) := by
  cases h with
  | zero => exact ⟨_, [], rfl, by simp⟩
  | digits _ hd => exact ⟨_, _, rfl, fun h => hd h.1⟩

namespace Cursor

/-- A point without digits is refused. -/
theorem decimals_failure {cs : List Char} (h : PastDigits cs) (negative : Bool) (word : Nat)
    (e : Int) (p : Place) :
    ∃ failure, decimals negative word e ⟨'.' :: cs, p⟩ = .error failure := by
  have hnone := digits_append (fun c hc => absurd hc List.not_mem_nil) h (p.after '.')
  rw [List.nil_append] at hnone
  rw [decimals, advance_cons, hnone]
  exact ⟨_, rfl⟩

theorem unsigned_settled (negative : Bool) {ds decimalPart tail : List Char}
    (hdigits : ∀ c ∈ ds, c.isDigit = true) (h : DecimalPart decimalPart)
    (htail : ExponentPart tail) :
    Settled (unsigned negative) (ds ++ (decimalPart ++ tail)) := by
  obtain ⟨exponent, hexponent⟩ := htail.spells
  simp only [Settled, List.append_assoc]
  have hend {rest : List Char} (hrest : Delimited rest) (p : Place) :
      (⟨ds ++ (decimalPart ++ (tail ++ rest)), p⟩ : Cursor).digits = ds :=
    digits_append hdigits (h.pastDigits htail hrest) p
  obtain rfl | ⟨more, rfl, hmore⟩ | hwhole := whole_cases hdigits
  · refine ⟨none, fun rest hrest p => ?_⟩
    rw [unsigned, hend hrest]
    dsimp only
    split
    · exact .failure _
    · exact .failure _
  · refine ⟨none, fun rest hrest p => ?_⟩
    rw [unsigned, hend hrest]
    dsimp only
    rw [if_pos (by simpa using hmore)]
    exact .failure _
  have hleaves {fraction point rest : List Char} (hfraction : SpellsFraction fraction point)
      (hrest : Delimited rest) (p : Place) :=
    unsigned_leaves hwhole hfraction hexponent (hrest.ends.pastNumber fraction exponent) negative p
  cases h with
  | none => exact ⟨_, fun rest hrest p => hleaves .none hrest p⟩
  | @some fraction hfraction =>
      cases fraction with
      | cons d fraction => exact ⟨_, fun rest hrest p => hleaves (.digits hfraction) hrest p⟩
      | nil =>
          refine ⟨none, fun rest hrest p => ?_⟩
          obtain ⟨d, more, rfl, hzero⟩ := hwhole.exists_cons
          rw [unsigned, hend hrest]
          dsimp only
          rw [if_neg hzero, afterWhole, skip_append]
          exact .of_error (decimals_failure (htail.pastDigits hrest) _ _ _ _)

end Cursor

/-- The text of a number without its sign: digits, decimals and an exponent. -/
inductive UnsignedForm : List Char → Prop
  | parts {ds decimalPart tail : List Char} : (∀ c ∈ ds, c.isDigit = true) →
      DecimalPart decimalPart → ExponentPart tail → UnsignedForm (ds ++ (decimalPart ++ tail))

inductive NumberForm : List Char → Prop
  | unsigned {t : List Char} : UnsignedForm t → NumberForm t
  | negative {t : List Char} : UnsignedForm t → NumberForm ('-' :: t)

theorem not_blank_of_isDigit {c : Char} (h : c.isDigit = true) : Cursor.isBlank c = false := by
  have hblank := Text.isBlank_of_isDigit h
  cases hc : Cursor.isBlank c with
  | false => rfl
  | true =>
      simp only [Cursor.isBlank, Bool.or_eq_true, beq_iff_eq] at hc
      rcases hc with ((rfl | rfl) | rfl) | rfl
      · cases h
      · cases h
      · cases h
      · cases h

/-- Without digits in front, a number starts with a point or a mark, or there is none. -/
theorem head_of_no_digits {decimalPart tail rest : List Char} (h : DecimalPart decimalPart)
    (htail : ExponentPart tail) (hrest : Delimited rest) {c : Char}
    (hc : c ∈ (decimalPart ++ tail ++ rest).head?) :
    c = '.' ∨ c = 'e' ∨ c = ',' ∨ c = ']' ∨ c = '\x7d' := by
  cases h with
  | some =>
      cases hc
      exact .inl rfl
  | none =>
      cases htail with
      | some =>
          cases hc
          exact .inr (.inl rfl)
      | none => exact .inr (.inr (hrest c hc))

namespace Cursor

theorem number_settled_of_digit {d : Char} {ds decimalPart tail : List Char}
    (hdigits : ∀ c ∈ d :: ds, c.isDigit = true) (h : DecimalPart decimalPart)
    (htail : ExponentPart tail) : Settled number (d :: ds ++ (decimalPart ++ tail)) := by
  obtain ⟨o, ho⟩ := unsigned_settled false hdigits h htail
  refine ⟨o, fun rest hrest p => ?_⟩
  have hd : d ≠ '-' := by
    rintro rfl
    cases hdigits '-' List.mem_cons_self
  unfold number
  split
  · next heq =>
    cases heq
    exact absurd rfl hd
  · exact ho rest hrest p

theorem bind_error {α β : Type} {x : Except Error β} {f : β → Except Error α}
    (h : ∀ b, ∃ e, f b = .error e) : ∃ e, (x >>= f) = .error e := by
  cases x with
  | error e => exact ⟨e, rfl⟩
  | ok b => exact h b

/-- Whatever stands there, it is refused. -/
theorem refuse_error {α : Type} (expected : String) (c : Cursor) :
    ∃ e, (c.refuse expected : Except Error α) = .error e := by
  unfold refuse
  split
  · exact ⟨_, rfl⟩
  · split_ifs
    · exact bind_error fun _ => ⟨_, rfl⟩
    · exact bind_error fun _ => ⟨_, rfl⟩
    · exact bind_error fun _ => ⟨_, rfl⟩
    · exact bind_error fun _ => ⟨_, rfl⟩
    · exact bind_error fun _ => ⟨_, rfl⟩
    · exact ⟨_, rfl⟩
    · exact ⟨_, rfl⟩
    · exact ⟨_, rfl⟩

end Cursor

namespace Reader

theorem float_of_other {c : Char} {cs rest : List Char} {p : Place}
    (hblank : Cursor.isBlank c = false) (hother : ¬ (c = '-' ∨ c.isDigit = true)) (levels : Nat) :
    Leaves rest none (Reader.float levels ⟨c :: cs, p⟩) := by
  rw [Reader.float, Cursor.skipBlanks_cons _ _ hblank]
  dsimp only
  rw [if_neg hother]
  exact .of_error (Cursor.refuse_error _ _)

theorem float_of_number {c : Char} {t : List Char} (hblank : Cursor.isBlank c = false)
    (hnumber : c = '-' ∨ c.isDigit = true) (h : Settled Cursor.number (c :: t)) :
    ∃ o, Makes 0 Reader.float (c :: t) o := by
  obtain ⟨o, ho⟩ := h
  refine ⟨o.map Number.toFloat, fun levels _ rest hrest p => ?_⟩
  have hleaves := ho rest hrest p
  rw [List.cons_append] at hleaves ⊢
  rw [Reader.float, Cursor.skipBlanks_cons _ _ hblank]
  dsimp only
  rw [if_pos hnumber]
  generalize Cursor.number ⟨c :: (t ++ rest), p⟩ = reply at hleaves
  cases hleaves with
  | value n p' => exact .value n.toFloat p'
  | failure e => exact .failure e

/-- What the reader makes of the text of a number does not depend on where it stands. -/
theorem float_makes {t : List Char} (h : NumberForm t) : ∃ o, Makes 0 Reader.float t o := by
  cases h with
  | negative hform =>
      obtain ⟨hdigits, hdecimals, htail⟩ := hform
      apply float_of_number rfl (.inl rfl)
      obtain ⟨o, ho⟩ := Cursor.unsigned_settled true hdigits hdecimals htail
      exact ⟨o, fun rest hrest p => ho rest hrest (p.after '-')⟩
  | unsigned hform =>
      obtain @⟨ds, decimalPart, tail, hdigits, hdecimals, htail⟩ := hform
      cases ds with
      | cons d ds =>
          have hd : d.isDigit = true := hdigits d List.mem_cons_self
          exact float_of_number (not_blank_of_isDigit hd) (.inr hd)
            (Cursor.number_settled_of_digit hdigits hdecimals htail)
      | nil =>
          -- nothing that can come first here starts a number, so the reader refuses it
          refine ⟨none, fun levels _ rest hrest p => ?_⟩
          have hhead := fun c hc => head_of_no_digits hdecimals htail hrest (c := c) hc
          rw [List.nil_append]
          generalize decimalPart ++ tail ++ rest = cs at hhead
          cases cs with
          | nil => exact .failure _
          | cons c cs =>
              have hc := hhead c rfl
              apply float_of_other
              · rcases hc with rfl | rfl | rfl | rfl | rfl <;> rfl
              · rcases hc with rfl | rfl | rfl | rfl | rfl <;> decide

end Reader

end Crossover.Json

namespace Crossover.NumberNotation

open Json (DecimalPart ExponentPart UnsignedForm NumberForm)

theorem isDigit_of_mem_digitChars {n : Nat} {c : Char} (h : c ∈ digitChars n) :
    c.isDigit = true :=
  Nat.isDigit_of_mem_toDigits (by decide) (by decide) h

theorem mem_of_mem_withoutTrailingZeros {cs : List Char} {c : Char}
    (h : c ∈ withoutTrailingZeros cs) : c ∈ cs := by
  rw [withoutTrailingZeros, List.mem_reverse] at h
  exact List.mem_reverse.mp ((List.dropWhile_sublist _).subset h)

theorem positionalChars_form {ds : List Char} (h : ∀ c ∈ ds, c.isDigit = true) (lead : Int) :
    UnsignedForm (positionalChars true ds lead) := by
  have hzeros {n : Nat} {c : Char} (hc : c ∈ List.replicate n '0') : c.isDigit = true := by
    rw [List.eq_of_mem_replicate hc]
    rfl
  unfold positionalChars
  split
  · have hform : UnsignedForm
        (['0'] ++ ('.' :: (List.replicate (-lead - 1).toNat '0' ++ ds) ++ [])) :=
      .parts (by simp) (.some fun c hc => (List.mem_append.mp hc).elim hzeros (h c)) .none
    simpa using hform
  dsimp only
  split
  · have hform : UnsignedForm ((ds ++ List.replicate (lead.toNat + 1 - ds.length) '0') ++
        ('.' :: ['0'] ++ [])) :=
      .parts (fun c hc => (List.mem_append.mp hc).elim (h c) hzeros) (.some (by simp)) .none
    simpa using hform
  · have hform : UnsignedForm
        (ds.take (lead.toNat + 1) ++ ('.' :: ds.drop (lead.toNat + 1) ++ [])) :=
      .parts (fun c hc => h c (List.mem_of_mem_take hc))
        (.some fun c hc => h c (List.mem_of_mem_drop hc)) .none
    simpa using hform

theorem exponentChars_form {ds : List Char} (h : ∀ c ∈ ds, c.isDigit = true) (lead : Int) :
    UnsignedForm (exponentChars true ds lead) := by
  obtain ⟨d, more, hcons⟩ := List.exists_cons_of_ne_nil
    (Nat.toDigits_ne_nil (b := 10) (n := lead.natAbs))
  have hexponent : ∀ c ∈ d :: more, c.isDigit = true := by
    intro c hc
    rw [← hcons] at hc
    exact isDigit_of_mem_digitChars hc
  have hfirst : ∀ c ∈ ds.take 1, c.isDigit = true := fun c hc => h c (List.mem_of_mem_take hc)
  have hdecimals : DecimalPart (if (ds.drop 1).isEmpty then [] else '.' :: ds.drop 1) := by
    split
    · exact .none
    · exact .some fun c hc => h c (List.mem_of_mem_drop hc)
  have htail : ExponentPart ((if lead < 0 then ['e', '-'] else ['e', '+']) ++ d :: more) := by
    split
    · exact .some (.inr rfl) hexponent
    · exact .some (.inl rfl) hexponent
  have hform := UnsignedForm.parts hfirst hdecimals htail
  rw [exponentChars, digitChars, hcons]
  simpa using hform

theorem decimalChars_form (d : Decimal) : UnsignedForm (json.decimalChars d) := by
  have hdigits : ∀ c ∈ withoutTrailingZeros (digitChars d.digits), c.isDigit = true :=
    fun c hc => isDigit_of_mem_digitChars (mem_of_mem_withoutTrailingZeros hc)
  unfold decimalChars
  dsimp only
  split
  · exact positionalChars_form hdigits _
  · exact exponentChars_form hdigits _

theorem zeroChars_form : UnsignedForm json.zeroChars := by
  have hform : UnsignedForm (['0'] ++ ('.' :: ['0'] ++ [])) :=
    .parts (by simp) (.some (by simp)) .none
  exact hform

theorem chars_form {x : Float} (h : Binary64.isFinite x.toBits = true) :
    NumberForm (json.chars x) := by
  obtain ⟨m, q, hmagnitude⟩ := (Binary64.magnitude_finite_iff _).mpr h
  have hsigned {t : List Char} (ht : UnsignedForm t) :
      NumberForm ((if Binary64.isNegative x.toBits then ['-'] else []) ++ t) := by
    split
    · exact .negative ht
    · exact .unsigned ht
  rw [chars, hmagnitude]
  dsimp only
  split
  · exact hsigned zeroChars_form
  · exact hsigned (decimalChars_form _)

end Crossover.NumberNotation

namespace Crossover.Json

def floatBack (x : Float) : Option Float := (Reader.float.run (floatText x)).toOption

theorem null_makes : Makes 0 Reader.float ['n', 'u', 'l', 'l'] none :=
  fun levels _ rest _ _ => Reader.float_of_other rfl (by decide) levels

theorem Reader.floatText_makes (x : Float) : Makes 0 Reader.float (floatText x) (floatBack x) := by
  have hmakes : ∃ o, Makes 0 Reader.float (floatText x) o := by
    unfold floatText
    split
    · next hfinite => exact float_makes (NumberNotation.chars_form hfinite)
    · exact ⟨none, null_makes⟩
  obtain ⟨o, ho⟩ := hmakes
  rw [floatBack, ho.run (Nat.zero_le _)]
  exact ho

/-- What is not a number, or infinite, does not come back. -/
theorem floatBack_of_not_finite {x : Float} (h : Binary64.isFinite x.toBits = false) :
    floatBack x = none := by
  rw [floatBack, floatText, if_neg (by simp [h])]
  exact null_makes.run (Nat.zero_le _)

end Crossover.Json

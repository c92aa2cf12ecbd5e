import Crossover.Proofs.Json.Strings
import Crossover.Proofs.Text.Digits

/-!
# Numbers are read exactly

A number is read from the texts that spell it, and from no others. The reader takes as much of
the text as can belong to a number; how the text goes on is therefore said beside its parts.
-/

namespace Crossover.Json

open Text (PastDigits takeWhile_append_pastDigits)

theorem Leaves.eq_of_ok {α : Type} {rest : List Char} {o : Option α} {a : α} {c : Cursor}
    (h : Leaves rest o (.ok (a, c))) : o = some a ∧ c.rest = rest := by
  cases h
  exact ⟨rfl, rfl⟩

theorem pastDigits_dropWhile (cs : List Char) : PastDigits (cs.dropWhile Char.isDigit) := by
  intro c hc
  have hhead := List.head?_dropWhile_not Char.isDigit cs
  rw [Option.mem_def.mp hc] at hhead
  exact hhead

theorem allDigits_takeWhile (cs : List Char) : AllDigits (cs.takeWhile Char.isDigit) :=
  List.all_eq_true.mp List.all_takeWhile

/-- The exponent, if there is none, does not begin here. -/
def PastExponent (exponent : Option (Bool × List Char)) (rest : List Char) : Prop :=
  PastDigits rest ∧ (exponent = none → ∀ c ∈ rest.head?, Cursor.isExponentMark c = false)

/-- None of the parts that a number may have goes on here. -/
def PastNumber (fraction : List Char) (exponent : Option (Bool × List Char)) (rest : List Char) :
    Prop :=
  PastExponent exponent rest ∧ (fraction = [] → exponent = none → ∀ c ∈ rest.head?, c ≠ '.')

theorem SpellsExponent.pastDigits {exponent : Option (Bool × List Char)} {tail rest : List Char}
    (h : SpellsExponent exponent tail) (hrest : PastDigits rest) : PastDigits (tail ++ rest) := by
  cases h with
  | none => exact hrest
  | digits hmark =>
      refine .cons ?_ _
      rcases Bool.or_eq_true .. ▸ hmark with h | h
      · rw [beq_iff_eq.mp h]
        rfl
      · rw [beq_iff_eq.mp h]
        rfl

namespace Digits

/-- What follows the digits of a number: an exponent, or else this number. -/
def tail? (negative : Bool) (word : Nat) (start : Int) (exponent : Option (Bool × List Char))
    (plain : Option Number) : Option Number :=
  match exponent with
  | some (down, ds) => scaledBy? negative word start down (Nat.ofDigitChars 10 ds 0)
  | none => plain

theorem number?_whole (negative : Bool) (whole : List Char)
    (exponent : Option (Bool × List Char)) :
    number? negative whole [] exponent =
      tail? negative (collect 0 whole).1 (collect 0 whole).2 exponent
        (if (collect 0 whole).2 = 0 then some (Cursor.integer negative (collect 0 whole).1)
          else real? negative (collect 0 whole).1 (collect 0 whole).2) := by
  cases exponent <;> simp [number?, tail?, collect]

theorem number?_fraction (negative : Bool) (whole ds : List Char) (d : Char)
    (exponent : Option (Bool × List Char)) :
    number? negative whole (d :: ds) exponent =
      tail? negative (collect (collect 0 whole).1 (d :: ds)).1
        ((collect 0 whole).2 -
          ((d :: ds).length - (collect (collect 0 whole).1 (d :: ds)).2 : Nat)) exponent
        (real? negative (collect (collect 0 whole).1 (d :: ds)).1 ((collect 0 whole).2 -
          ((d :: ds).length - (collect (collect 0 whole).1 (d :: ds)).2 : Nat))) := by
  cases exponent <;> simp [number?, tail?]

end Digits

namespace Cursor

open Digits (real? scaledBy? tail? number?)

theorem digits_append {ds rest : List Char} (hdigits : ∀ c ∈ ds, c.isDigit = true)
    (hrest : PastDigits rest) (p : Place) : (⟨ds ++ rest, p⟩ : Cursor).digits = ds :=
  takeWhile_append_pastDigits hdigits hrest

theorem skip_append (ds rest : List Char) (p : Place) :
    (⟨ds ++ rest, p⟩ : Cursor).skip ds = ⟨rest, ds.foldl Place.after p⟩ := by
  rw [skip, List.drop_left]

theorem real_leaves_real? (negative : Bool) (word : Nat) (e : Int) (rest : List Char) (p : Place) :
    Leaves rest (real? negative word e) (real negative word e ⟨rest, p⟩) := by
  unfold real real?
  cases Digits.scaled? 4 (Float.ofNat word) e with
  | none => exact .failure _
  | some x => exact .value _ p

theorem le_ofDigitChars (e : Nat) (ds : List Char) : e ≤ Nat.ofDigitChars 10 ds e := by
  rw [Nat.ofDigitChars_eq_ofDigitChars_zero]
  have hpow : 1 ≤ 10 ^ ds.length := Nat.one_le_pow _ _ (by decide)
  exact Nat.le_add_right_of_le (Nat.le_mul_of_pos_left e hpow)

theorem exponentDigits_leaves_scaledBy? (negative : Bool) (word : Nat) (start : Int) (down : Bool)
    {e : Nat} (he : e ≤ largestExponent) (ds rest : List Char) (p : Place) :
    Leaves rest (scaledBy? negative word start down (Nat.ofDigitChars 10 ds e))
      (exponentDigits negative word start down e ds ⟨ds ++ rest, p⟩) := by
  induction ds generalizing e p with
  | nil =>
      rw [Nat.ofDigitChars_nil, scaledBy?, if_pos he]
      exact real_leaves_real? _ _ _ rest p
  | cons d ds ih =>
      rw [Nat.ofDigitChars_cons, exponentDigits, List.cons_append, advance_cons]
      have hmore : e * 10 + Digits.value d = 10 * e + (d.toNat - '0'.toNat) := by
        rw [Digits.value, Nat.mul_comm]
      rw [hmore]
      by_cases hsmall : 10 * e + (d.toNat - '0'.toNat) ≤ largestExponent
      · rw [if_pos hsmall]
        exact ih hsmall _
      · have hlarge : ¬ Nat.ofDigitChars 10 ds (10 * e + (d.toNat - '0'.toNat)) ≤
            largestExponent := fun h => hsmall (Nat.le_trans (le_ofDigitChars _ ds) h)
        rw [if_neg hsmall, scaledBy?, if_neg hlarge]
        by_cases hbeyond : word ≠ 0 ∧ !down
        · rw [if_pos hbeyond, if_pos hbeyond]
          exact .failure _
        · rw [if_neg hbeyond, if_neg hbeyond, skip_append]
          exact .value _ _

def direction (c : Cursor) : Bool × Cursor :=
  match c.rest with
  | '+' :: _ => (false, c.advance)
  | '-' :: _ => (true, c.advance)
  | _ => (false, c)

theorem direction_append {sign cs : List Char} {down : Bool} (h : SpellsDirection down sign)
    (hcs : sign = [] → ∀ c ∈ cs.head?, c ≠ '+' ∧ c ≠ '-') (p : Place) :
    direction ⟨sign ++ cs, p⟩ = (down, ⟨cs, sign.foldl Place.after p⟩) := by
  cases h with
  | plus => rfl
  | minus => rfl
  | none =>
      unfold direction
      split
      · next heq => exact absurd rfl (hcs rfl '+' (List.head?_eq_some_iff.mpr ⟨_, heq⟩)).1
      · next heq => exact absurd rfl (hcs rfl '-' (List.head?_eq_some_iff.mpr ⟨_, heq⟩)).2
      · rfl

def unsignedExponent (negative : Bool) (word : Nat) (start : Int) (down : Bool) (c : Cursor) :
    Except Error (Number × Cursor) :=
  match c.digits with
  | [] => if c.rest.isEmpty then c.fail .endInValue else c.failNext .invalidNumber
  | ds => exponentDigits negative word start down 0 ds c

theorem exponent_eq (negative : Bool) (word : Nat) (start : Int) (c : Cursor) :
    exponent negative word start c =
      unsignedExponent negative word start (direction c.advance).1 (direction c.advance).2 :=
  rfl

theorem exponent_direction {sign cs : List Char} {down : Bool} (h : SpellsDirection down sign)
    (hcs : sign = [] → ∀ c ∈ cs.head?, c ≠ '+' ∧ c ≠ '-') (negative : Bool) (word : Nat)
    (start : Int) (mark : Char) (p : Place) :
    exponent negative word start ⟨mark :: (sign ++ cs), p⟩ =
      unsignedExponent negative word start down ⟨cs, (mark :: sign).foldl Place.after p⟩ := by
  rw [exponent_eq, advance_cons, direction_append h hcs]
  rfl

theorem exponent_leaves {t ds rest : List Char} {down : Bool}
    (h : SpellsExponent (some (down, ds)) t) (hrest : PastDigits rest) (negative : Bool)
    (word : Nat) (start : Int) (p : Place) :
    Leaves rest (scaledBy? negative word start down (Nat.ofDigitChars 10 ds 0))
      (exponent negative word start ⟨t ++ rest, p⟩) := by
  cases h with
  | @digits mark d sign ds down hmark hsign hdigits =>
      have hunsigned : sign = [] → ∀ c ∈ (d :: ds ++ rest).head?, c ≠ '+' ∧ c ≠ '-' := by
        rintro - c hc
        cases hc
        exact Text.ne_sign_of_isDigit (hdigits d List.mem_cons_self)
      rw [List.cons_append, List.append_assoc, exponent_direction hsign hunsigned,
        unsignedExponent, digits_append hdigits hrest]
      exact exponentDigits_leaves_scaledBy? negative word start down (Nat.zero_le _) _ rest _

/-- After the digits comes an exponent, or the number ends. -/
theorem tail_leaves {exponent : Option (Bool × List Char)} {tail rest : List Char}
    (h : SpellsExponent exponent tail) (hrest : PastExponent exponent rest) (negative : Bool)
    (word : Nat) (start : Int) (plain : Cursor → Except Error (Number × Cursor))
    {o : Option Number} {p : Place} (hplain : Leaves rest o (plain ⟨rest, p⟩)) :
    Leaves rest (tail? negative word start exponent o)
      (match tail ++ rest with
        | ch :: _ => if isExponentMark ch then Cursor.exponent negative word start ⟨tail ++ rest, p⟩
            else plain ⟨tail ++ rest, p⟩
        | [] => plain ⟨tail ++ rest, p⟩) := by
  cases h with
  | none =>
      cases rest with
      | nil => exact hplain
      | cons c rest =>
          have hmark : ¬ isExponentMark c = true := by simp [hrest.2 rfl c rfl]
          simp only [List.nil_append, if_neg hmark]
          exact hplain
  | digits hmark hsign hdigits =>
      simp only [List.cons_append, if_pos hmark]
      exact exponent_leaves (.digits hmark hsign hdigits) hrest.1 negative word start p

theorem decimals_leaves {ds tail rest : List Char} {d : Char}
    {exponent : Option (Bool × List Char)} (hdigits : AllDigits (d :: ds))
    (h : SpellsExponent exponent tail) (hrest : PastExponent exponent rest) (negative : Bool)
    (word : Nat) (e : Int) (p : Place) :
    Leaves rest
      (tail? negative (Digits.collect word (d :: ds)).1
        (e - ((d :: ds).length - (Digits.collect word (d :: ds)).2 : Nat)) exponent
        (real? negative (Digits.collect word (d :: ds)).1
          (e - ((d :: ds).length - (Digits.collect word (d :: ds)).2 : Nat))))
      (decimals negative word e ⟨'.' :: (d :: ds ++ (tail ++ rest)), p⟩) := by
  have hsome := digits_append hdigits (h.pastDigits hrest.1) (p.after '.')
  have hskip := skip_append (d :: ds) (tail ++ rest) (p.after '.')
  rw [decimals, advance_cons, hsome]
  dsimp only
  rw [hskip]
  exact tail_leaves h hrest negative _ _ (real negative _ _) (real_leaves_real? negative _ _ rest _)

theorem plain_leaves (negative : Bool) (word dropped : Nat) (rest : List Char) (p : Place) :
    Leaves rest
      (if dropped = 0 then some (integer negative word) else real? negative word dropped)
      (if dropped = 0 then .ok (integer negative word, ⟨rest, p⟩)
        else real negative word dropped ⟨rest, p⟩) := by
  by_cases hdropped : dropped = 0
  · rw [if_pos hdropped, if_pos hdropped]
    exact .value _ p
  · rw [if_neg hdropped, if_neg hdropped]
    exact real_leaves_real? negative word dropped rest p

theorem afterWhole_leaves (whole : List Char) {fraction point tail rest : List Char}
    {exponent : Option (Bool × List Char)} (hfraction : SpellsFraction fraction point)
    (h : SpellsExponent exponent tail) (hrest : PastNumber fraction exponent rest)
    (negative : Bool) (p : Place) :
    Leaves rest (number? negative whole fraction exponent)
      (afterWhole negative whole ⟨whole ++ (point ++ (tail ++ rest)), p⟩) := by
  rw [afterWhole, skip_append]
  cases hfraction with
  | digits hdigits =>
      rw [Digits.number?_fraction]
      exact decimals_leaves hdigits h hrest.1 negative _ _ _
  | none =>
      have htail := tail_leaves h hrest.1 negative (Digits.collect 0 whole).1
        (Digits.collect 0 whole).2 (fun c =>
          if (Digits.collect 0 whole).2 = 0 then .ok (integer negative (Digits.collect 0 whole).1, c)
          else real negative (Digits.collect 0 whole).1 (Digits.collect 0 whole).2 c)
        (plain_leaves negative (Digits.collect 0 whole).1 (Digits.collect 0 whole).2 rest
          (whole.foldl Place.after p))
      have hpoint : ∀ c ∈ (tail ++ rest).head?, c ≠ '.' := by
        cases h with
        | none => exact hrest.2 rfl rfl
        | digits hmark =>
            rintro c hc rfl
            cases hc
            cases hmark
      rw [Digits.number?_whole, List.nil_append]
      generalize tail ++ rest = cs at htail hpoint ⊢
      cases cs with
      | nil => exact htail
      | cons c cs =>
          dsimp only at htail ⊢
          rw [if_neg (hpoint c rfl)]
          exact htail

theorem SpellsFraction.pastDigits {fraction point rest : List Char}
    (h : SpellsFraction fraction point) (hrest : PastDigits rest) : PastDigits (point ++ rest) := by
  cases h with
  | none => exact hrest
  | digits => exact .cons rfl _

theorem unsigned_leaves {whole fraction point tail rest : List Char}
    {exponent : Option (Bool × List Char)} (hwhole : SpellsWhole whole)
    (hfraction : SpellsFraction fraction point) (h : SpellsExponent exponent tail)
    (hrest : PastNumber fraction exponent rest) (negative : Bool) (p : Place) :
    Leaves rest (number? negative whole fraction exponent)
      (unsigned negative ⟨whole ++ (point ++ (tail ++ rest)), p⟩) := by
  have hpast : PastDigits (point ++ (tail ++ rest)) :=
    SpellsFraction.pastDigits hfraction (h.pastDigits hrest.1.1)
  have hleaves := afterWhole_leaves whole hfraction h hrest negative p
  cases hwhole with
  | zero =>
      have hzero : AllDigits ['0'] := by simp [AllDigits]
      rw [unsigned, digits_append hzero hpast]
      exact hleaves
  | digits hdigits hd =>
      rw [unsigned, digits_append hdigits hpast]
      dsimp only
      rw [if_neg fun h => hd h.1]
      exact hleaves

theorem SpellsWhole.first_ne_minus {whole rest more : List Char} {c : Char} (h : SpellsWhole whole)
    (hcons : whole ++ rest = c :: more) : c ≠ '-' := by
  cases h with
  | zero =>
      rw [← (List.cons.inj hcons).1]
      decide
  | digits hdigits =>
      rw [← (List.cons.inj hcons).1]
      rintro rfl
      cases hdigits '-' List.mem_cons_self

/-- The reader makes of a number what its parts come to. -/
theorem number_leaves {negative : Bool} {whole fraction t rest : List Char}
    {exponent : Option (Bool × List Char)} (h : SpellsNumeral negative whole fraction exponent t)
    (hrest : PastNumber fraction exponent rest) (p : Place) :
    Leaves rest (number? negative whole fraction exponent) (number ⟨t ++ rest, p⟩) := by
  obtain ⟨hsign, hwhole, hfraction, htail⟩ := h
  simp only [List.append_assoc]
  cases hsign with
  | minus => exact unsigned_leaves hwhole hfraction htail hrest true (p.after '-')
  | none =>
      unfold number
      split
      · next heq => exact absurd rfl (SpellsWhole.first_ne_minus hwhole heq)
      · exact unsigned_leaves hwhole hfraction htail hrest false p

/-! ## What is read is a number -/

theorem exists_direction (cs : List Char) : ∃ down sign rest, SpellsDirection down sign ∧
    cs = sign ++ rest ∧ (sign = [] → ∀ c ∈ rest.head?, c ≠ '+' ∧ c ≠ '-') := by
  cases cs with
  | nil => exact ⟨false, [], [], .none, rfl, by simp⟩
  | cons c cs =>
      by_cases hplus : c = '+'
      · exact ⟨false, ['+'], cs, .plus, by rw [hplus]; rfl, by simp⟩
      by_cases hminus : c = '-'
      · exact ⟨true, ['-'], cs, .minus, by rw [hminus]; rfl, by simp⟩
      · exact ⟨false, [], c :: cs, .none, rfl, by simpa using ⟨hplus, hminus⟩⟩

/-- Digits in front, and how the text goes on after them. -/
theorem exists_digits (cs : List Char) (p : Place) (h : (⟨cs, p⟩ : Cursor).digits ≠ []) :
    ∃ d ds rest, AllDigits (d :: ds) ∧ cs = d :: ds ++ rest ∧ PastDigits rest := by
  obtain ⟨d, ds, hcons⟩ := List.exists_cons_of_ne_nil h
  have hdigits := allDigits_takeWhile cs
  have happend := List.takeWhile_append_dropWhile (p := Char.isDigit) (l := cs)
  rw [digits] at hcons
  rw [hcons] at hdigits happend
  exact ⟨d, ds, _, hdigits, happend.symm, pastDigits_dropWhile cs⟩

theorem exponent_shape {negative : Bool} {word : Nat} {start : Int} {mark : Char}
    {cs : List Char} {p : Place} {r : Number × Cursor} (hmark : isExponentMark mark = true)
    (h : exponent negative word start ⟨mark :: cs, p⟩ = .ok r) :
    ∃ exponent tail rest, SpellsExponent exponent tail ∧ mark :: cs = tail ++ rest ∧
      PastExponent exponent rest := by
  obtain ⟨down, sign, rest, hsign, rfl, hrest⟩ := exists_direction cs
  rw [exponent_direction hsign hrest, unsignedExponent] at h
  split at h
  · split at h
    · cases h
    · cases h
  · next hsome =>
    obtain ⟨d, ds, rest, hdigits, rfl, hpast⟩ := exists_digits _ _ hsome
    refine ⟨_, _, rest, .digits hmark hsign hdigits, by simp, hpast, ?_⟩
    intro hnone
    cases hnone

theorem tail_shape {negative : Bool} {word : Nat} {start : Int} {cs : List Char} {p : Place}
    {plain : Except Error (Number × Cursor)} {r : Number × Cursor} (hpast : PastDigits cs)
    (h : (match cs with
      | ch :: _ => if isExponentMark ch then exponent negative word start ⟨cs, p⟩ else plain
      | [] => plain) = .ok r) :
    ∃ exponent tail rest, SpellsExponent exponent tail ∧ cs = tail ++ rest ∧
      PastExponent exponent rest := by
  cases cs with
  | nil => exact ⟨none, [], [], .none, rfl, hpast, by simp⟩
  | cons c cs =>
      by_cases hmark : isExponentMark c = true
      · dsimp only at h
        rw [if_pos hmark] at h
        exact exponent_shape hmark h
      · exact ⟨none, [], c :: cs, .none, rfl, hpast, by simpa using hmark⟩

theorem decimals_shape {negative : Bool} {word : Nat} {e : Int} {cs : List Char} {p : Place}
    {r : Number × Cursor} (h : decimals negative word e ⟨'.' :: cs, p⟩ = .ok r) :
    ∃ d ds exponent tail rest, AllDigits (d :: ds) ∧ SpellsExponent exponent tail ∧
      cs = d :: ds ++ (tail ++ rest) ∧ PastExponent exponent rest := by
  rw [decimals, advance_cons] at h
  dsimp only at h
  split at h
  · cases h
  · next hsome =>
    obtain ⟨d, ds, cs, hdigits, rfl, hpast⟩ := exists_digits _ _ hsome
    rw [digits_append hdigits hpast, skip_append] at h
    obtain ⟨exponent, tail, rest, htail, rfl, hrest⟩ := tail_shape hpast h
    exact ⟨d, ds, exponent, tail, rest, hdigits, htail, rfl, hrest⟩

theorem afterWhole_shape {negative : Bool} {whole cs : List Char} {p : Place}
    {r : Number × Cursor} (hpast : PastDigits cs)
    (h : afterWhole negative whole ⟨whole ++ cs, p⟩ = .ok r) :
    ∃ fraction point exponent tail rest, SpellsFraction fraction point ∧
      SpellsExponent exponent tail ∧ cs = point ++ (tail ++ rest) ∧
      PastNumber fraction exponent rest := by
  rw [afterWhole, skip_append] at h
  by_cases hpoint : ∃ more, cs = '.' :: more
  · obtain ⟨more, rfl⟩ := hpoint
    dsimp only at h
    rw [if_pos rfl] at h
    obtain ⟨d, ds, exponent, tail, rest, hdigits, htail, rfl, hrest⟩ := decimals_shape h
    refine ⟨_, _, exponent, tail, rest, .digits hdigits, htail, rfl, hrest, ?_⟩
    intro hnil
    cases hnil
  · have hhead : ∀ c ∈ cs.head?, c ≠ '.' := by
      rintro c hc rfl
      exact hpoint (List.head?_eq_some_iff.mp hc)
    have htail : ∃ exponent tail rest, SpellsExponent exponent tail ∧ cs = tail ++ rest ∧
        PastExponent exponent rest := by
      cases cs with
      | nil => exact ⟨none, [], [], .none, rfl, hpast, by simp⟩
      | cons c cs =>
          dsimp only at h
          rw [if_neg (hhead c rfl)] at h
          exact tail_shape hpast h
    obtain ⟨exponent, tail, rest, htail, rfl, hrest⟩ := htail
    refine ⟨[], [], exponent, tail, rest, .none, htail, rfl, hrest, ?_⟩
    rintro - rfl
    cases htail
    exact hhead

theorem unsigned_shape {negative : Bool} (cs : List Char) (p : Place) {r : Number × Cursor}
    (h : unsigned negative ⟨cs, p⟩ = .ok r) :
    ∃ whole fraction point exponent tail rest, SpellsWhole whole ∧
      SpellsFraction fraction point ∧ SpellsExponent exponent tail ∧
      cs = whole ++ (point ++ (tail ++ rest)) ∧ PastNumber fraction exponent rest := by
  rw [unsigned] at h
  split at h
  · split at h
    · cases h
    · cases h
  · next hcons =>
    obtain ⟨d, ds, cs, hdigits, rfl, hpast⟩ :=
      exists_digits cs p (hcons ▸ List.cons_ne_nil _ _)
    rw [digits_append hdigits hpast] at hcons
    obtain ⟨rfl, rfl⟩ := List.cons.inj hcons
    split at h
    · cases h
    · next hzero =>
      obtain ⟨fraction, point, exponent, tail, rest, hfraction, htail, rfl, hrest⟩ :=
        afterWhole_shape hpast h
      refine ⟨d :: ds, fraction, point, exponent, tail, rest, ?_, hfraction, htail, rfl, hrest⟩
      by_cases hd : d = '0'
      · have hds : ds = [] := by simpa [hd] using hzero
        rw [hd, hds]
        exact .zero
      · exact .digits hdigits hd

theorem number_shape {c : Cursor} {r : Number × Cursor} (h : number c = .ok r) :
    ∃ negative whole fraction exponent t rest, SpellsNumeral negative whole fraction exponent t ∧
      c.rest = t ++ rest ∧ PastNumber fraction exponent rest := by
  unfold number at h
  split at h
  · next more hminus =>
    obtain ⟨whole, fraction, point, exponent, tail, rest, hwhole, hfraction, htail, hmore, hrest⟩ :=
      unsigned_shape c.advance.rest c.advance.place h
    rw [rest_advance hminus] at hmore
    refine ⟨true, whole, fraction, exponent, _, rest, ⟨.minus, hwhole, hfraction, htail⟩, ?_, hrest⟩
    rw [hminus, hmore]
    simp
  · obtain ⟨whole, fraction, point, exponent, tail, rest, hwhole, hfraction, htail, hmore, hrest⟩ :=
      unsigned_shape c.rest c.place h
    refine ⟨false, whole, fraction, exponent, _, rest, ⟨.none, hwhole, hfraction, htail⟩, ?_, hrest⟩
    rw [hmore]
    simp

theorem number_sound {c c' : Cursor} {n : Number} (h : number c = .ok (n, c')) :
    ∃ t, SpellsNumber n t ∧ c.rest = t ++ c'.rest := by
  obtain ⟨negative, whole, fraction, exponent, t, rest, hnumeral, hrest, hpast⟩ := number_shape h
  have hleaves := number_leaves hnumeral hpast c.place
  rw [← hrest, h] at hleaves
  obtain ⟨hsome, rfl⟩ := hleaves.eq_of_ok
  exact ⟨t, .value hnumeral hsome, hrest⟩

/-- How a text may go on after a value. -/
def Ends (rest : List Char) : Prop :=
  ∀ c ∈ rest.head?, isBlank c = true ∨ c = ',' ∨ c = ']' ∨ c = '\x7d'

theorem Ends.pastNumber {rest : List Char} (h : Ends rest) (fraction : List Char)
    (exponent : Option (Bool × List Char)) : PastNumber fraction exponent rest := by
  have hend {c : Char} (hc : c ∈ rest.head?) :
      c.isDigit = false ∧ isExponentMark c = false ∧ c ≠ '.' := by
    obtain hblank | rfl | rfl | rfl := h c hc
    · simp only [isBlank, Bool.or_eq_true, beq_iff_eq] at hblank
      obtain ((rfl | rfl) | rfl) | rfl := hblank <;> decide
    · decide
    · decide
    · decide
  exact ⟨⟨fun _ hc => (hend hc).1, fun _ _ hc => (hend hc).2.1⟩, fun _ _ _ hc => (hend hc).2.2⟩

theorem number_complete {n : Number} {t rest : List Char} (h : SpellsNumber n t) (hrest : Ends rest)
    (p : Place) : ∃ p', number ⟨t ++ rest, p⟩ = .ok (n, ⟨rest, p'⟩) := by
  obtain ⟨hnumeral, hsome⟩ := h
  have hleaves := number_leaves hnumeral (hrest.pastNumber _ _) p
  rw [hsome] at hleaves
  generalize number ⟨t ++ rest, p⟩ = reply at hleaves ⊢
  cases hleaves with
  | value _ p' => exact ⟨p', rfl⟩

end Cursor

end Crossover.Json

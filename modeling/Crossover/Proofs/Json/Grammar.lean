import Crossover.Json.Value

/-!
# Texts of JSON values

The texts that spell a value, said without a reader. Blanks may stand around every value, name
and mark. A number is an optional minus sign, digits without a leading zero, and optional
decimals and exponent; one beyond the binary64 range spells nothing. A string is spelled
character by character, plainly or behind a backslash; half a surrogate pair spells nothing.
A list or an object may hold other ones, to a limited depth.
-/

namespace Crossover.Json

variable {α : Type}

/-- Blanks only. -/
def Gap (cs : List Char) : Prop := ∀ c ∈ cs, Cursor.isBlank c = true

def AllDigits (ds : List Char) : Prop := ∀ c ∈ ds, c.isDigit = true

/-! ## Strings -/

/-- The code of four hexadecimal digits. -/
inductive SpellsCode (code : Nat) : List Char → Prop
  | digits {a b c d : Char} : Cursor.hexValues? a b c d = some code → SpellsCode code [a, b, c, d]

inductive SpellsEscape : Char → List Char → Prop
  | letter {l c : Char} : Cursor.letterEscape? l = some c → SpellsEscape c [l]
  | code {n : Nat} {digits : List Char} : SpellsCode n digits → n < 0xd800 ∨ 0xdfff < n →
      SpellsEscape (Char.ofNat n) ('u' :: digits)
  | pair {high low : Nat} {highDigits lowDigits : List Char} : SpellsCode high highDigits →
      0xd800 ≤ high → high ≤ 0xdbff → SpellsCode low lowDigits → 0xdc00 ≤ low → low ≤ 0xdfff →
      SpellsEscape (Char.ofNat ((high - 0xd800) * 1024 + (low - 0xdc00) + 0x10000))
        ('u' :: (highDigits ++ '\\' :: 'u' :: lowDigits))

inductive SpellsChar : Char → List Char → Prop
  | plain {c : Char} : c ≠ '"' → c ≠ '\\' → 0x20 ≤ c.toNat → SpellsChar c [c]
  | escaped {c : Char} {t : List Char} : SpellsEscape c t → SpellsChar c ('\\' :: t)

inductive SpellsChars : List Char → List Char → Prop
  | nil : SpellsChars [] []
  | cons {c : Char} {s t u : List Char} : SpellsChar c t → SpellsChars s u →
      SpellsChars (c :: s) (t ++ u)

inductive SpellsString (s : String) : List Char → Prop
  | quoted {t : List Char} : SpellsChars s.toList t → SpellsString s ('"' :: (t ++ ['"']))

/-! ## Numbers -/

inductive SpellsSign : Bool → List Char → Prop
  | none : SpellsSign false []
  | minus : SpellsSign true ['-']

inductive SpellsWhole : List Char → Prop
  | zero : SpellsWhole ['0']
  | digits {d : Char} {ds : List Char} : AllDigits (d :: ds) → d ≠ '0' → SpellsWhole (d :: ds)

/-- The digits after the point, none if there is no point. -/
inductive SpellsFraction : List Char → List Char → Prop
  | none : SpellsFraction [] []
  | digits {d : Char} {ds : List Char} : AllDigits (d :: ds) →
      SpellsFraction (d :: ds) ('.' :: d :: ds)

/-- The sign of an exponent: whether it counts downwards. -/
inductive SpellsDirection : Bool → List Char → Prop
  | none : SpellsDirection false []
  | plus : SpellsDirection false ['+']
  | minus : SpellsDirection true ['-']

inductive SpellsExponent : Option (Bool × List Char) → List Char → Prop
  | none : SpellsExponent none []
  | digits {mark d : Char} {sign ds : List Char} {down : Bool} : Cursor.isExponentMark mark = true →
      SpellsDirection down sign → AllDigits (d :: ds) →
      SpellsExponent (some (down, d :: ds)) (mark :: (sign ++ d :: ds))

/-- The text of a number of any size, with its parts. -/
inductive SpellsNumeral (negative : Bool) (whole fraction : List Char)
    (exponent : Option (Bool × List Char)) : List Char → Prop
  | parts {sign point tail : List Char} : SpellsSign negative sign → SpellsWhole whole →
      SpellsFraction fraction point → SpellsExponent exponent tail →
      SpellsNumeral negative whole fraction exponent (sign ++ (whole ++ (point ++ tail)))

namespace Digits

/-- The number `word * 10 ^ e`, unless it is beyond the range. -/
def real? (negative : Bool) (word : Nat) (e : Int) : Option Number :=
  (scaled? 4 (Float.ofNat word) e).map fun x => .real (if negative then -x else x)

/-- The number `word * 10 ^ (start + e)` or, downwards, `word * 10 ^ (start - e)`. -/
def scaledBy? (negative : Bool) (word : Nat) (start : Int) (down : Bool) (e : Nat) :
    Option Number :=
  if e ≤ Cursor.largestExponent then real? negative word (if down then start - e else start + e)
  else if word ≠ 0 ∧ !down then none
  else some (.real (if negative then -0.0 else 0.0))

def number? (negative : Bool) (whole fraction : List Char) (exponent : Option (Bool × List Char)) :
    Option Number :=
  let (word, dropped) := collect 0 whole
  let (significand, rest) := collect word fraction
  let start : Int := dropped - (fraction.length - rest : Nat)
  match exponent with
  | some (down, ds) => scaledBy? negative significand start down (Nat.ofDigitChars 10 ds 0)
  | none =>
    if fraction = [] ∧ dropped = 0 then some (Cursor.integer negative word)
    else real? negative significand start

end Digits

inductive SpellsNumber (n : Number) : List Char → Prop
  | value {negative : Bool} {whole fraction t : List Char}
      {exponent : Option (Bool × List Char)} : SpellsNumeral negative whole fraction exponent t →
      Digits.number? negative whole fraction exponent = some n → SpellsNumber n t

/-! ## Values -/

/-- What stands before an element: blanks and, after another element, a comma. -/
inductive Lead : (first : Bool) → List Char → Prop
  | first {gap : List Char} : Gap gap → Lead true gap
  | later {before gap : List Char} : Gap before → Gap gap → Lead false (before ++ ',' :: gap)

/-- Elements with commas between them, and blanks around elements and commas. -/
inductive Elements (spells : α → List Char → Prop) : (first : Bool) → List α → List Char → Prop
  | nil {first : Bool} {gap : List Char} : Gap gap → Elements spells first [] gap
  | cons {first : Bool} {a : α} {as : List α} {lead t rest : List Char} : Lead first lead →
      spells a t → Elements spells false as rest →
      Elements spells first (a :: as) (lead ++ (t ++ rest))

/-- The text of a list, over the texts of its elements. -/
inductive SpellsList (spells : α → List Char → Prop) (as : List α) : List Char → Prop
  | brackets {t : List Char} :
      Elements spells true as t → SpellsList spells as ('[' :: (t ++ [']']))

/-- The text of a name and its value. -/
inductive SpellsMember (spells : α → List Char → Prop) : String × α → List Char → Prop
  | pair {key : String} {a : α} {name before after t : List Char} : SpellsString key name →
      Gap before → Gap after → spells a t →
      SpellsMember spells (key, a) (name ++ (before ++ ':' :: (after ++ t)))

inductive SpellsObject (spells : α → List Char → Prop) (fields : List (String × α)) :
    List Char → Prop
  | braces {t : List Char} : Elements (SpellsMember spells) true fields t →
      SpellsObject spells fields ('\x7b' :: (t ++ ['\x7d']))

inductive SpellsScalar : Value → List Char → Prop
  | null : SpellsScalar .null ['n', 'u', 'l', 'l']
  | true : SpellsScalar (.bool true) ['t', 'r', 'u', 'e']
  | false : SpellsScalar (.bool false) ['f', 'a', 'l', 's', 'e']
  | number {n : Number} {t : List Char} : SpellsNumber n t → SpellsScalar (.number n) t
  | string {s : String} {t : List Char} : SpellsString s t → SpellsScalar (.string s) t

/-- A value that holds others. -/
inductive SpellsOver (spells : Value → List Char → Prop) : Value → List Char → Prop
  | list {vs : List Value} {t : List Char} : SpellsList spells vs t →
      SpellsOver spells (.list vs) t
  | object {fields : List (String × Value)} {t : List Char} : SpellsObject spells fields t →
      SpellsOver spells (.object (Value.sortFields fields)) t

/-- The text of a value with at most that many brackets inside each other. -/
def Spells : (levels : Nat) → Value → List Char → Prop
  | 0, v, t => SpellsScalar v t
  | levels + 1, v, t => SpellsScalar v t ∨ SpellsOver (Spells levels) v t

/-- The whole text is a value, between blanks. -/
inductive IsText (v : Value) : List Char → Prop
  | padded {before t after : List Char} : Gap before → Spells allLevels v t → Gap after →
      IsText v (before ++ (t ++ after))

end Crossover.Json

import Crossover.Number.Shortest

/-!
# Notations for numbers

A notation fixes how the shortest decimal of a binary64 word is laid out: which leading
exponents are written positionally, whether whole numbers keep a decimal point, how an exponent
is marked, and which neighbour a tie goes to. The library writes four notations: `plain` in
messages, `withPoint` and `exact` where text has to show that a value is a real number, and `json`
in JSON texts. `fixed` writes a given number of places of the exact value.
-/

namespace Crossover

structure NumberNotation where
  /-- Leading decimal exponents written without an exponent mark. -/
  positional : Int → Bool
  /-- Whole numbers written positionally end in `.0`. -/
  wholePoint : Bool
  /-- Positive exponents carry a sign. -/
  exponentPlus : Bool
  tie : Decimal.Tie

namespace NumberNotation

/-- Never an exponent, and whole numbers without a point. -/
def plain : NumberNotation := ⟨fun _ => true, false, false, .up⟩

/-- Never an exponent, and whole numbers end in `.0`. -/
def withPoint : NumberNotation := ⟨fun _ => true, true, false, .up⟩

/-- Exponents below 1e-4 and from 1e16 on. -/
def exact : NumberNotation := ⟨fun e => -4 ≤ e && e < 16, true, false, .up⟩

/-- Exponents below 1e-5 and from 1e16 on, with their sign. -/
def json : NumberNotation := ⟨fun e => -5 ≤ e && e < 16, true, true, .even⟩

def digitChars (n : Nat) : List Char :=
  Nat.toDigits 10 n

def withoutTrailingZeros (cs : List Char) : List Char :=
  (cs.reverse.dropWhile (· == '0')).reverse

def positionalChars (wholePoint : Bool) (ds : List Char) (lead : Int) : List Char :=
  if lead < 0 then
    ['0', '.'] ++ List.replicate (-lead - 1).toNat '0' ++ ds
  else
    let whole := lead.toNat + 1
    if ds.length ≤ whole then
      ds ++ List.replicate (whole - ds.length) '0' ++ (if wholePoint then ['.', '0'] else [])
    else ds.take whole ++ '.' :: ds.drop whole

def exponentChars (plus : Bool) (ds : List Char) (lead : Int) : List Char :=
  let fraction := ds.drop 1
  let mark := if lead < 0 then ['e', '-'] else if plus then ['e', '+'] else ['e']
  ds.take 1 ++ (if fraction.isEmpty then [] else '.' :: fraction) ++ mark ++
    digitChars lead.natAbs

def decimalChars (style : NumberNotation) (d : Decimal) : List Char :=
  let all := digitChars d.digits
  let lead := d.scale + all.length - 1
  let ds := withoutTrailingZeros all
  if style.positional lead then positionalChars style.wholePoint ds lead
  else exponentChars style.exponentPlus ds lead

def zeroChars (style : NumberNotation) : List Char :=
  if style.wholePoint then ['0', '.', '0'] else ['0']

/-- The text of a number; what is not a number has no sign. -/
def chars (style : NumberNotation) (x : Float) : List Char :=
  let bits := x.toBits
  let sign := if Binary64.isNegative bits then ['-'] else []
  match Binary64.magnitude bits with
  | .nan => ['N', 'a', 'N']
  | .infinite => sign ++ ['i', 'n', 'f']
  | .finite m q =>
    if m = 0 then sign ++ style.zeroChars
    else sign ++ style.decimalChars (Decimal.shortest style.tie m q (Binary64.lowerGapIsHalf bits))

def text (style : NumberNotation) (x : Float) : String :=
  String.ofList (style.chars x)

/-- The exact value with a fixed number of places, a half to the even neighbour. -/
def fixed (places : Nat) (x : Float) : String :=
  let bits := x.toBits
  let sign := if Binary64.isNegative bits then ['-'] else []
  match Binary64.magnitude bits with
  | .nan => "NaN"
  | .infinite => String.ofList (sign ++ ['i', 'n', 'f'])
  | .finite m q =>
    let units := (Decimal.Quotient.scaled m 2 q).rounded places
    let ds := digitChars units
    let padded := List.replicate (places + 1 - ds.length) '0' ++ ds
    let whole := padded.length - places
    String.ofList (sign ++ padded.take whole ++ '.' :: padded.drop whole)

end NumberNotation

end Crossover

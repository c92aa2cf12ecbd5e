/-!
# Reading numbers

Two grammars for number texts, neither of which allows white space. `natural?` takes digits
after an optional plus sign, up to a bound. `float?` takes an optional sign and then either a
decimal with digits on at least one side of the point and an optional exponent, or one of the
words `inf`, `infinity` and `nan` in any case; the decimal is rounded to the nearest binary64
word, ties to even.
-/

namespace Crossover.NumberText

def digitValue (c : Char) : Nat :=
  c.toNat - '0'.toNat

def digitsValue (cs : List Char) : Nat :=
  cs.foldl (fun n c => n * 10 + digitValue c) 0

def natural? (bound : Nat) (cs : List Char) : Option Nat :=
  let ds := match cs with
    | '+' :: rest => rest
    | _ => cs
  if ds.isEmpty || !ds.all Char.isDigit then none
  else
    let n := digitsValue ds
    if n ≤ bound then some n else none

def largestWord : Nat := Nat.pow 2 64 - 1

def signed (cs : List Char) : Bool × List Char :=
  match cs with
  | '-' :: rest => (true, rest)
  | '+' :: rest => (false, rest)
  | _ => (false, cs)

/-- The exponent part: nothing, or a mark, an optional sign and digits up to the end. -/
def exponent? (cs : List Char) : Option Int :=
  match cs with
  | [] => some 0
  | c :: rest =>
    if c = 'e' ∨ c = 'E' then
      let (negative, ds) := signed rest
      if ds.isEmpty || !ds.all Char.isDigit then none
      else
        let n : Int := digitsValue ds
        some (if negative then -n else n)
    else none

/-- The nearest binary64 word to `digits * 10 ^ e`. Numbers from `10 ^ 310` on are infinite and
those below `10 ^ (-330)` are zero, whatever their digits. -/
def nearest (digits : Nat) (e : Int) : Float :=
  let lead := (Nat.toDigits 10 digits).length + e
  if digits = 0 ∨ lead < -330 then 0.0
  else if 310 < lead then 1.0 / 0.0
  else Float.ofScientific digits (e < 0) e.natAbs

def decimal? (cs : List Char) : Option Float :=
  let whole := cs.takeWhile Char.isDigit
  let afterWhole := cs.dropWhile Char.isDigit
  let (fraction, tail) := match afterWhole with
    | '.' :: rest => (rest.takeWhile Char.isDigit, rest.dropWhile Char.isDigit)
    | _ => ([], afterWhole)
  if whole.isEmpty && fraction.isEmpty then none
  else
    (exponent? tail).map fun e =>
      nearest (digitsValue (whole ++ fraction)) (e - fraction.length)

def word? (cs : List Char) : Option Float :=
  match cs.map Char.toLower with
  | ['i', 'n', 'f'] => some (1.0 / 0.0)
  | ['i', 'n', 'f', 'i', 'n', 'i', 't', 'y'] => some (1.0 / 0.0)
  | ['n', 'a', 'n'] => some (0.0 / 0.0)
  | _ => none

def float? (cs : List Char) : Option Float :=
  let (negative, body) := signed cs
  (decimal? body <|> word? body).map fun x => if negative then -x else x

end Crossover.NumberText

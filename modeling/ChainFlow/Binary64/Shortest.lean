import ChainFlow.Binary64.Basic
import ChainFlow.Text.Digit

/-!
# The shortest decimal text of a binary number

`shortest` finds the decimal numeral with the fewest digits that reads back as a given number, and
of those the nearest to it. `text` lays it out: positional from `1e-4` up to `1e16` and always with
a point, otherwise with an exponent of at least two digits.
-/

namespace ChainFlow.Binary64

/-- The power of ten of the leading digit of a positive quotient. -/
def leadingPower (numerator denominator : Nat) : Int :=
  if denominator ≤ numerator then (Text.digitCount (numerator / denominator) : Int) - 1
  else
    let below := Text.digitCount (denominator / numerator) - 1
    if denominator ≤ numerator * tenTo below then -(below : Int) else -(below : Int) - 1

/-- A quotient in units of a power of ten, rounded down, and twice its remainder beside its
divisor. -/
def onGrid (numerator denominator : Nat) (power : Int) : Nat × Nat × Nat :=
  let (n, d) :=
    if 0 ≤ power then (numerator, denominator * tenTo power.toNat)
    else (numerator * tenTo (-power).toNat, denominator)
  (n / d, 2 * (n % d), d)

/-- The point of a decimal grid that reads back as a number, if one of its two neighbours does; of
two the nearer, and of two equally near ones the even one. -/
def onGrid? (x : Binary64) (numerator denominator : Nat) (power : Int) : Option Nat :=
  let (below, twice, unit) := onGrid numerator denominator power
  let reads (coefficient : Nat) : Bool := decide (ofDecimal false coefficient power = x)
  match reads below, reads (below + 1) with
  | true, true =>
    some (if twice < unit then below else if unit < twice then below + 1 else below + below % 2)
  | true, false => some below
  | false, true => some (below + 1)
  | false, false => none

/-- The first grid with a point that reads back, from a power of ten on down; failing all of
`fuel` grids, the exact value. -/
def search (x : Binary64) (numerator denominator : Nat) : Nat → Int → Nat × Int
  | 0, _ => (numerator * fiveTo denominator.log2, -(denominator.log2 : Int))
  | fuel + 1, power =>
    match onGrid? x numerator denominator power with
    | some coefficient => (coefficient, power)
    | none => search x numerator denominator fuel (power - 1)

/-- A numeral without zeros at its end; zero has exponent zero. -/
def withoutZeros : Nat → Nat → Int → Nat × Int
  | 0, coefficient, exponent => (coefficient, exponent)
  | fuel + 1, coefficient, exponent =>
    if coefficient = 0 then (0, 0)
    else if coefficient % 10 = 0 then withoutZeros fuel (coefficient / 10) (exponent + 1)
    else (coefficient, exponent)

def shortest (mantissa : Nat) (exponent : Int) : Nat × Int :=
  if mantissa = 0 then (0, 0)
  else
    let (n, d) := magnitude mantissa exponent
    let (coefficient, power) := search (.finite false mantissa exponent) n d 17 (leadingPower n d)
    withoutZeros (Text.digitCount coefficient) coefficient power

/-- The digits of a numeral around a decimal point, which stands after the first `whole` of them. -/
def pointed (digits : List Char) (whole : Int) : List Char :=
  if whole ≤ 0 then '0' :: '.' :: List.replicate (-whole).toNat '0' ++ digits
  else if digits.length ≤ whole.toNat then
    digits ++ List.replicate (whole.toNat - digits.length) '0' ++ ['.', '0']
  else digits.take whole.toNat ++ '.' :: digits.drop whole.toNat

def exponential (digits : List Char) (power : Int) : List Char :=
  let tail := if digits.length ≤ 1 then [] else '.' :: digits.drop 1
  let written := Text.digits power.natAbs
  digits.take 1 ++ tail ++ 'e' :: (if power < 0 then '-' else '+') ::
    (List.replicate (2 - written.length) '0' ++ written)

def magnitudeText (mantissa : Nat) (exponent : Int) : List Char :=
  let (coefficient, power) := shortest mantissa exponent
  let digits := Text.digits coefficient
  let whole := (digits.length : Int) + power
  if -4 < whole ∧ whole ≤ 16 then pointed digits whole else exponential digits (whole - 1)

/-- A number in the shortest text that reads back. -/
def text : Binary64 → List Char
  | .nan => "nan".toList
  | .infinite negative => (if negative then "-inf" else "inf").toList
  | .finite negative mantissa exponent =>
    (if negative then ['-'] else []) ++ magnitudeText mantissa exponent

end ChainFlow.Binary64

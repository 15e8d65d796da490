import ChainFlow.Power

/-!
# Binary floating-point numbers

The numbers of the binary64 format, with a sign, a mantissa below `2 ^ 53` and an exponent from
`-1074` to `971`, two infinities and one not-a-number. `ofRatio` rounds a quotient of natural
numbers to the nearest of them, a tie to the even mantissa, and `ofDecimal` rounds a decimal
numeral in the same way. Every function that yields a finite number goes through `ofRatio`, so
equal numbers have equal representations.
-/

namespace ChainFlow

inductive Binary64 where
  | nan
  | infinite (negative : Bool)
  | finite (negative : Bool) (mantissa : Nat) (exponent : Int)
  deriving DecidableEq, Inhabited

namespace Binary64

def minExponent : Int := -1074

def maxExponent : Int := 971

def zero (negative : Bool) : Binary64 := .finite negative 0 minExponent

/-- `numerator * 2 ^ shift / denominator` as a quotient of natural numbers. -/
def scaled (numerator denominator : Nat) (shift : Int) : Nat × Nat :=
  if 0 ≤ shift then (numerator * twoTo shift.toNat, denominator)
  else (numerator, denominator * twoTo (-shift).toNat)

def nearestEven (numerator denominator : Nat) : Nat :=
  let quotient := numerator / denominator
  let twice := 2 * (numerator % denominator)
  if twice < denominator then quotient
  else if twice > denominator then quotient + 1
  else quotient + quotient % 2

/-- The exponent at which a positive quotient has a mantissa of 53 bits, or the least one. -/
def exponentOf (numerator denominator : Nat) : Int :=
  let guess := (numerator.log2 : Int) - denominator.log2 - 52
  let (n, d) := scaled numerator denominator (-guess)
  max minExponent (if n < d * twoTo 52 then guess - 1 else guess)

/-- The number of a rounded mantissa, which may be one too large. -/
def settled (negative : Bool) (mantissa : Nat) (exponent : Int) : Binary64 :=
  if mantissa = 0 then zero negative
  else if mantissa = twoTo 53 then
    if exponent + 1 > maxExponent then .infinite negative
    else .finite negative (twoTo 52) (exponent + 1)
  else if exponent > maxExponent then .infinite negative
  else .finite negative mantissa exponent

def ofRatio (negative : Bool) (numerator denominator : Nat) : Binary64 :=
  if numerator = 0 then zero negative
  else
    let exponent := exponentOf numerator denominator
    let quotient := scaled numerator denominator (-exponent)
    settled negative (nearestEven quotient.1 quotient.2) exponent

def ofInt (n : Int) : Binary64 := ofRatio (n < 0) n.natAbs 1

/-- The number nearest to `coefficient * 10 ^ exponent`. Above `10 ^ 310` there is only infinity,
below `10 ^ -330` only zero, so no power of ten is larger than needed. -/
def ofDecimal (negative : Bool) (coefficient : Nat) (exponent : Int) : Binary64 :=
  if coefficient = 0 then zero negative
  else
    let magnitude : Int := (Nat.toDigits 10 coefficient).length + exponent
    if magnitude > 310 then .infinite negative
    else if magnitude < -330 then zero negative
    else if 0 ≤ exponent then ofRatio negative (coefficient * tenTo exponent.toNat) 1
    else ofRatio negative coefficient (tenTo (-exponent).toNat)

/-- The magnitude of `mantissa * 2 ^ exponent` as a quotient of natural numbers. -/
def magnitude (mantissa : Nat) (exponent : Int) : Nat × Nat := scaled mantissa 1 exponent

def isFinite : Binary64 → Bool
  | .finite .. => true
  | _ => false

def isZero : Binary64 → Bool
  | .finite _ 0 _ => true
  | _ => false

/-- Whether the number is zero or above it; not so for a not-a-number. -/
def isNonnegative : Binary64 → Bool
  | .nan => false
  | .infinite negative => !negative
  | .finite negative mantissa _ => !negative || mantissa == 0

def truncate? : Binary64 → Option Int
  | .finite negative mantissa exponent =>
    let (n, d) := magnitude mantissa exponent
    some (if negative then -((n / d : Nat) : Int) else ((n / d : Nat) : Int))
  | _ => none

/-- A finite number as a whole number, if it has no fraction. -/
def toInt? : Binary64 → Option Int
  | .finite negative mantissa exponent =>
    let (n, d) := magnitude mantissa exponent
    if n % d = 0 then some (if negative then -((n / d : Nat) : Int) else ((n / d : Nat) : Int))
    else none
  | _ => none

def scale (x : Binary64) (factor : Nat) : Binary64 :=
  match x with
  | .nan => .nan
  | .infinite negative => if factor = 0 then .nan else .infinite negative
  | .finite negative mantissa exponent =>
    let (n, d) := magnitude mantissa exponent
    ofRatio negative (n * factor) d

end Binary64

end ChainFlow

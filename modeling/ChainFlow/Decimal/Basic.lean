import ChainFlow.Power
import ChainFlow.Text.Digit

/-!
# Decimal numbers

A decimal number keeps the exponent it was written with, so `1.50` and `1.5` are different numbers
of equal value. Arithmetic works with 28 significant digits, a half going to the even neighbour,
and adjusted exponents from -999999 to 999999. A result below that range becomes a subnormal or
zero; one above it, and an operation without a meaningful result, is a `Signal`.
-/

namespace ChainFlow

/-- A decimal number, or one of the values that stand for none. -/
inductive Decimal where
  | finite (negative : Bool) (coefficient : Nat) (exponent : Int)
  | infinite (negative : Bool)
  | nan (negative signaling : Bool) (payload : Nat)
  deriving DecidableEq, Inhabited

namespace Decimal

inductive Signal where
  | malformed
  /-- The operation is undefined, or its result needs too many digits. -/
  | invalid
  | overflow
  deriving DecidableEq, Repr

inductive Rounding where
  | halfEven
  | halfUp
  | down
  deriving DecidableEq

def precision : Nat := 28

/-- The greatest adjusted exponent. -/
def maxAdjusted : Int := 999999

/-- The least exponent of a subnormal number. -/
def minExponent : Int := -999999 - 27

def ofNat (n : Nat) : Decimal := .finite false n 0

/-- A quotient with remainder as one of its two neighbours. `remainder` is below `divisor`. -/
def Rounding.choose (rounding : Rounding) (quotient remainder divisor : Nat) : Nat :=
  match rounding with
  | .down => quotient
  | .halfUp => if divisor ≤ 2 * remainder then quotient + 1 else quotient
  | .halfEven =>
    if 2 * remainder < divisor then quotient
    else if divisor < 2 * remainder then quotient + 1
    else quotient + quotient % 2

/-- A coefficient without its last `places` digits, rounded. Past its own length every coefficient
rounds as one unit of the place before would. -/
def Rounding.drop (rounding : Rounding) (coefficient places : Nat) : Nat :=
  if Text.digitCount coefficient < places then 0
  else rounding.choose (coefficient / tenTo places) (coefficient % tenTo places) (tenTo places)

/-- The exponent of the leading digit. -/
def adjusted (coefficient : Nat) (exponent : Int) : Int :=
  exponent + Text.digitCount coefficient - 1

/-- A result brought within the precision and the range of exponents. -/
def fit (negative : Bool) (coefficient : Nat) (exponent : Int) : Except Signal Decimal :=
  if coefficient = 0 then
    .ok (.finite negative 0 (max minExponent (min maxAdjusted exponent)))
  else if maxAdjusted < adjusted coefficient exponent then .error .overflow
  else
    let lowest := max minExponent (exponent + Text.digitCount coefficient - precision)
    if lowest ≤ exponent then .ok (.finite negative coefficient exponent)
    else
      let kept := Rounding.halfEven.drop coefficient (lowest - exponent).toNat
      let (kept, exponent) :=
        if kept = tenTo precision then (tenTo (precision - 1), lowest + 1) else (kept, lowest)
      if maxAdjusted < adjusted kept exponent then .error .overflow
      else .ok (.finite negative kept exponent)

/-- A quiet not-a-number whose payload fits the precision. -/
def quiet (negative : Bool) (payload : Nat) : Decimal :=
  .nan negative false (payload % tenTo precision)

/-- The result that a not-a-number among two operands forces: a signaling one is undefined, a quiet
one carries on, the first before the second. -/
def nan? : Decimal → Decimal → Option (Except Signal Decimal)
  | .nan _ true _, _ => some (.error .invalid)
  | _, .nan _ true _ => some (.error .invalid)
  | .nan negative _ payload, _ => some (.ok (quiet negative payload))
  | _, .nan negative _ payload => some (.ok (quiet negative payload))
  | _, _ => none

def signed (negative : Bool) (coefficient : Nat) : Int :=
  if negative then -(coefficient : Int) else coefficient

/-- The sum of two nonzero numbers, the first with the greater exponent. A second number too small
to matter for rounding is replaced by one unit below the last digit that does. -/
def addAligned (negative₁ : Bool) (coefficient₁ : Nat) (exponent₁ : Int)
    (negative₂ : Bool) (coefficient₂ : Nat) (exponent₂ : Int) : Except Signal Decimal :=
  let floor := exponent₁ + min (-1) ((Text.digitCount coefficient₁ : Int) - precision - 2)
  let (coefficient₂, exponent₂) :=
    if adjusted coefficient₂ exponent₂ < floor then (1, floor) else (coefficient₂, exponent₂)
  let total := signed negative₁ (coefficient₁ * tenTo (exponent₁ - exponent₂).toNat) +
    signed negative₂ coefficient₂
  fit (total < 0) total.natAbs exponent₂

/-- The sum of zero and a nonzero number, with the lesser of the two exponents as far as the
precision allows. -/
def addZero (zeroExponent : Int) (negative : Bool) (coefficient : Nat) (exponent : Int) :
    Except Signal Decimal :=
  let target := max (min exponent zeroExponent)
    (exponent + Text.digitCount coefficient - precision - 1)
  if target < exponent then
    let room := max target (exponent + Text.digitCount coefficient - precision)
    fit negative (coefficient * tenTo (exponent - room).toNat) room
  else fit negative coefficient exponent

def add (a b : Decimal) : Except Signal Decimal :=
  match nan? a b with
  | some result => result
  | none =>
    match a, b with
    | .infinite n₁, .infinite n₂ => if n₁ = n₂ then .ok (.infinite n₁) else .error .invalid
    | .infinite n₁, _ => .ok (.infinite n₁)
    | _, .infinite n₂ => .ok (.infinite n₂)
    | .finite n₁ 0 e₁, .finite n₂ 0 e₂ => fit (n₁ && n₂) 0 (min e₁ e₂)
    | .finite _ 0 e₁, .finite n₂ c₂ e₂ => addZero e₁ n₂ c₂ e₂
    | .finite n₁ c₁ e₁, .finite _ 0 e₂ => addZero e₂ n₁ c₁ e₁
    | .finite n₁ c₁ e₁, .finite n₂ c₂ e₂ =>
      if e₂ ≤ e₁ then addAligned n₁ c₁ e₁ n₂ c₂ e₂ else addAligned n₂ c₂ e₂ n₁ c₁ e₁
    | .nan .., _ => .error .invalid
    | _, .nan .. => .error .invalid

def mul (a b : Decimal) : Except Signal Decimal :=
  match nan? a b with
  | some result => result
  | none =>
    match a, b with
    | .finite n₁ c₁ e₁, .finite n₂ c₂ e₂ => fit (n₁ != n₂) (c₁ * c₂) (e₁ + e₂)
    | .infinite n₁, .infinite n₂ => .ok (.infinite (n₁ != n₂))
    | .infinite n₁, .finite n₂ c₂ _ =>
      if c₂ = 0 then .error .invalid else .ok (.infinite (n₁ != n₂))
    | .finite n₁ c₁ _, .infinite n₂ =>
      if c₁ = 0 then .error .invalid else .ok (.infinite (n₁ != n₂))
    | .nan .., _ => .error .invalid
    | _, .nan .. => .error .invalid

/-- A hundredth of a number: the digits stay, the exponent falls by two, and zeros at the end go as
long as the exponent is below the one it had. -/
def hundredth : Decimal → Except Signal Decimal
  | .finite negative coefficient exponent =>
    if coefficient = 0 then fit negative 0 exponent
    else if coefficient % 100 = 0 then fit negative (coefficient / 100) exponent
    else if coefficient % 10 = 0 then fit negative (coefficient / 10) (exponent - 1)
    else fit negative coefficient (exponent - 2)
  | .infinite negative => .ok (.infinite negative)
  | .nan _ true _ => .error .invalid
  | .nan negative false payload => .ok (quiet negative payload)

def quantize (rounding : Rounding) (x : Decimal) (target : Int) : Except Signal Decimal :=
  match x with
  | .nan _ true _ => .error .invalid
  | .nan negative false payload => .ok (quiet negative payload)
  | .infinite _ => .error .invalid
  | .finite negative coefficient exponent =>
    if coefficient = 0 then .ok (.finite negative 0 target)
    else if (precision : Int) < Text.digitCount coefficient + (exponent - target) then
      .error .invalid
    else if target ≤ exponent then
      .ok (.finite negative (coefficient * tenTo (exponent - target).toNat) target)
    else
      let kept := rounding.drop coefficient (target - exponent).toNat
      if precision < Text.digitCount kept then .error .invalid
      else .ok (.finite negative kept target)

/-- Whether the first of two finite numbers is less than the second. An infinity compares by its
sign and nothing compares with a not-a-number. -/
def lt? : Decimal → Decimal → Option Bool
  | .finite n₁ c₁ e₁, .finite n₂ c₂ e₂ =>
    let low := min e₁ e₂
    some (signed n₁ (c₁ * tenTo (e₁ - low).toNat) < signed n₂ (c₂ * tenTo (e₂ - low).toNat))
  | .infinite n₁, .infinite n₂ => some (n₁ && !n₂)
  | .infinite n₁, .finite .. => some n₁
  | .finite .., .infinite n₂ => some !n₂
  | _, _ => none

/-- Whether a number is finite and not below zero; zero may carry either sign. -/
def isAmount : Decimal → Bool
  | .finite negative coefficient _ => !negative || coefficient == 0
  | _ => false

def truncate? : Decimal → Option Int
  | .finite negative coefficient exponent =>
    if 0 ≤ exponent then some (signed negative (coefficient * tenTo exponent.toNat))
    else some (signed negative (coefficient / tenTo (-exponent).toNat))
  | _ => none

end Decimal

end ChainFlow

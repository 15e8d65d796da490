import ChainFlow.Binary64.Shortest

/-!
# Rounded decimal texts of a binary number

Magnitudes with a given number of places or of significant digits, rounded to the nearest and a tie
to the even digit. `fixedText` is positional, `scientificText` has an exponent, and `generalText`
is the shorter-looking of the two, without zeros at the end. Where `full` is asked for the point is
written even before nothing, and zeros at the end stay.
-/

namespace ChainFlow.Binary64

def withPoint (full : Bool) (whole fraction : List Char) : List Char :=
  if fraction.isEmpty && !full then whole else whole ++ '.' :: fraction

def fixedText (full : Bool) (places mantissa : Nat) (exponent : Int) : List Char :=
  let (n, d) := magnitude mantissa exponent
  let written := Text.digits (nearestEven (n * tenTo places) d)
  let padded := List.replicate (places + 1 - written.length) '0' ++ written
  let whole := padded.length - places
  withPoint full (padded.take whole) (padded.drop whole)

/-- A number rounded to some places after the point; one that is not finite has its own text. -/
def fixed (places : Nat) : Binary64 → List Char
  | .finite negative mantissa exponent =>
    (if negative then ['-'] else []) ++ fixedText false places mantissa exponent
  | x => x.text

/-- Some significant digits of a magnitude, at least one, and the power of ten of the first. -/
def significant (count mantissa : Nat) (exponent : Int) : List Char × Int :=
  if mantissa = 0 then (List.replicate count '0', 0)
  else
    let (n, d) := magnitude mantissa exponent
    let power := leadingPower n d
    let shift := (count : Int) - 1 - power
    let rounded :=
      if 0 ≤ shift then nearestEven (n * tenTo shift.toNat) d
      else nearestEven n (d * tenTo (-shift).toNat)
    if rounded = tenTo count then (Text.digits (tenTo (count - 1)), power + 1)
    else (Text.digits rounded, power)

/-- The mark of an exponent, its sign, and two digits of it at least. -/
def exponentText (power : Int) : List Char :=
  let written := Text.digits power.natAbs
  'e' :: (if power < 0 then '-' else '+') ::
    (List.replicate (2 - written.length) '0' ++ written)

def scientificText (full : Bool) (places mantissa : Nat) (exponent : Int) : List Char :=
  let (digits, power) := significant (places + 1) mantissa exponent
  withPoint full (digits.take 1) (digits.drop 1) ++ exponentText power

/-- A magnitude with some significant digits: with an exponent if its first digit is below the
fourth place or beyond the last digit. -/
def generalText (full : Bool) (count mantissa : Nat) (exponent : Int) : List Char :=
  let count := max 1 count
  let (digits, power) := significant count mantissa exponent
  let digits :=
    if full then digits
    else digits.take 1 ++ ((digits.drop 1).reverse.dropWhile (· = '0')).reverse
  if power < -4 ∨ (count : Int) ≤ power then
    withPoint full (digits.take 1) (digits.drop 1) ++ exponentText power
  else if power < 0 then
    withPoint full ['0'] (List.replicate (power.natAbs - 1) '0' ++ digits)
  else
    let whole := power.toNat + 1
    withPoint full (digits.take whole ++ List.replicate (whole - digits.length) '0')
      (digits.drop whole)

end ChainFlow.Binary64

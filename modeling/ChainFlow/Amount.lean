import ChainFlow.Fault

/-!
# Amounts

An amount is entered as text and read as a decimal number that is finite and not negative. Base
units are what a contract counts in. Costs are written with two places.
-/

namespace ChainFlow.Amount

/-- The number of an entered amount. What is not text is read as it would be written. -/
def parse (entered : Json) : Except Fault Decimal :=
  match Decimal.parse (Text.trimBlank entered.plain.toList) with
  | .ok value => if value.isAmount then .ok value else .error (.badAmount entered)
  | .error _ => .error (.badAmount entered)

/-- An amount in base units, the fraction of a unit dropped. -/
def baseUnits (entered : Json) (symbol : String) : Except Fault Int := do
  let amount ← parse entered
  let units ← ofSignal (amount.mul (.finite false (tenTo (Token.placesOf symbol)) 0))
  let whole ← ofSignal (Decimal.quantize .down units 0)
  return whole.truncate?.getD 0

/-- A cost with two places, a half of the last place going up. -/
def formatCost (cost : Decimal) : Except Decimal.Signal String :=
  (Decimal.quantize .halfUp cost (-2)).map Decimal.toText

end ChainFlow.Amount

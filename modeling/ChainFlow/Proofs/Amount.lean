import ChainFlow.Proofs.Decimal.Nearest
import ChainFlow.Proofs.Result

/-!
# Base units

An amount in base units is rounded to the precision before its fraction is dropped, and with that it
is the whole part of what was entered or, for an amount of more digits than the precision, one unit
more. `RoundsUp` says for which amounts; those written with 28 digits or fewer are none of them.
-/

namespace ChainFlow

namespace Decimal

theorem finite_of_isAmount {x : Decimal} (isAmount : x.isAmount = true) :
    ∃ negative coefficient exponent, x = .finite negative coefficient exponent ∧
      (negative = false ∨ coefficient = 0) := by
  cases x with
  | finite negative coefficient exponent =>
      refine ⟨negative, coefficient, exponent, rfl, ?_⟩
      simpa [Decimal.isAmount] using isAmount
  | infinite negative => cases isAmount
  | nan negative signaling payload => cases isAmount

theorem signed_of_isAmount {negative : Bool} {coefficient : Nat}
    (isAmount : negative = false ∨ coefficient = 0) : signed negative coefficient = coefficient := by
  rcases isAmount with rfl | rfl
  · rfl
  · cases negative <;> rfl

theorem truncate?_whole (negative : Bool) (coefficient : Nat) :
    (finite negative coefficient 0).truncate? = some (signed negative coefficient) := by
  simp only [truncate?, Int.toNat_zero, tenTo_eq, Nat.pow_zero, Nat.mul_one]
  rfl

/-- How many digits a number is written with. -/
def digits : Decimal → Nat
  | .finite _ coefficient _ => Text.digitCount coefficient
  | _ => 0

end Decimal

theorem Token.placesOf_eq (symbol : String) :
    placesOf symbol = if symbol = "USDC" ∨ symbol = "USDT" then 6 else 18 := by
  unfold placesOf ofSymbol?
  split
  · next known =>
    split at known <;> cases known <;> rfl
  · next unknown =>
    split at unknown
    · cases unknown
    · cases unknown
    · cases unknown
    · next usdc usdt => rw [if_neg (not_or.mpr ⟨usdc, usdt⟩)]

namespace Amount

open Decimal

theorem isAmount_of_parse {entered : Json} {amount : Decimal} (parsed : parse entered = .ok amount) :
    amount.isAmount = true := by
  unfold parse at parsed
  split at parsed
  · split at parsed
    · next isAmount =>
      cases parsed
      exact isAmount
    · cases parsed
  · cases parsed

/-- What an amount is in base units, down to the last fraction of a unit. -/
def exactUnits (amount : Decimal) (symbol : String) : ℚ :=
  amount.value * 10 ^ (if symbol = "USDC" ∨ symbol = "USDT" then 6 else 18)

theorem exactUnits_eq {negative : Bool} {coefficient : Nat} (exponent : Int) (symbol : String)
    (isAmount : negative = false ∨ coefficient = 0) :
    exactUnits (.finite negative coefficient exponent) symbol =
      (coefficient * tenTo (Token.placesOf symbol) : Nat) * 10 ^ exponent := by
  rw [exactUnits, ← Token.placesOf_eq, value, signed_of_isAmount isAmount, tenTo_eq]
  push_cast
  ring

theorem exactUnits_nonneg {amount : Decimal} (isAmount : amount.isAmount = true) (symbol : String) :
    0 ≤ exactUnits amount symbol := by
  obtain ⟨negative, coefficient, exponent, rfl, sign⟩ := finite_of_isAmount isAmount
  rw [exactUnits_eq exponent symbol sign]
  exact mul_nonneg (Nat.cast_nonneg _) (ten_zpow_pos exponent).le

/-- An amount is rounded to the precision, and what is left is cut to a whole number if it fits. -/
theorem baseUnits_of_parse {entered : Json} {amount : Decimal} (parsed : parse entered = .ok amount)
    (symbol : String) :
    (nearest (exactUnits amount symbol) < 10 ^ 28 →
      baseUnits entered symbol = .ok ⌊nearest (exactUnits amount symbol)⌋) ∧
    (10 ^ 28 ≤ nearest (exactUnits amount symbol) →
      ∃ fault, baseUnits entered symbol = .error fault) := by
  have isAmount := isAmount_of_parse parsed
  obtain ⟨negative, coefficient, exponent, rfl, sign⟩ := finite_of_isAmount isAmount
  have product : (finite negative coefficient exponent).mul
      (.finite false (tenTo (Token.placesOf symbol)) 0) =
        fit negative (coefficient * tenTo (Token.placesOf symbol)) exponent := by
    simp only [mul, nan?, Bool.bne_false, Int.add_zero]
  have counted : baseUnits entered symbol = (do
      let units ← ofSignal (fit negative (coefficient * tenTo (Token.placesOf symbol)) exponent)
      let whole ← ofSignal (quantize .down units 0)
      return whole.truncate?.getD 0) := by
    simp only [baseUnits, parsed, ← product]
    rfl
  rw [counted, exactUnits_eq exponent symbol sign]
  rcases fit_nearest negative (coefficient * tenTo (Token.placesOf symbol)) exponent with
    ⟨coefficient', exponent', fits, same⟩ | ⟨overflows, great⟩
  · obtain ⟨whole, excess⟩ := quantize_down negative coefficient' exponent'
    rw [fits, ← same]
    constructor
    · intro small
      have cut : (0 : ℚ) ≤ coefficient' * 10 ^ exponent' :=
        mul_nonneg (Nat.cast_nonneg _) (ten_zpow_pos exponent').le
      have none_below : negative = false ∨ ⌊(coefficient' : ℚ) * 10 ^ exponent'⌋₊ = 0 := by
        refine sign.imp_right fun zero => ?_
        rw [same, zero, Nat.zero_mul, Nat.cast_zero, zero_mul, zero_nearest, Nat.floor_zero]
      change (ofSignal (quantize .down _ 0)).bind (fun whole => .ok (whole.truncate?.getD 0)) = _
      rw [whole small]
      change Except.ok ((truncate? _).getD 0) = _
      rw [truncate?_whole, Option.getD_some, signed_of_isAmount none_below,
        Int.natCast_floor_eq_floor cut]
    · intro great
      refine ⟨.arithmetic .invalid, ?_⟩
      change (ofSignal (quantize .down _ 0)).bind (fun whole => .ok (whole.truncate?.getD 0)) = _
      rw [excess great]
      rfl
  · rw [overflows]
    constructor
    · intro small
      have least : (10 : ℚ) ^ (28 : Int) ≤ 10 ^ (maxAdjusted + 1) := ten_zpow_le (by decide)
      exact absurd (small.trans_le (le_trans (by exact_mod_cast least) great)) (lt_irrefl _)
    · exact fun _ => ⟨_, rfl⟩

/-- A number of no more digits than the precision is as it is after rounding, but for what is nothing
beside a unit. -/
theorem not_roundsUp_of_digits {amount : Decimal} (isAmount : amount.isAmount = true)
    (few : amount.digits ≤ 28) {symbol : String} (small : exactUnits amount symbol < 10 ^ 28) :
    ¬ RoundsUp (exactUnits amount symbol) := by
  obtain ⟨negative, coefficient, exponent, rfl, sign⟩ := finite_of_isAmount isAmount
  have nonneg := exactUnits_nonneg isAmount symbol
  have scaled : exactUnits (.finite negative coefficient exponent) symbol =
      coefficient * 10 ^ (exponent + Token.placesOf symbol) := by
    rw [exactUnits_eq exponent symbol sign, tenTo_eq, add_comm exponent, ten_zpow_add, zpow_natCast]
    push_cast
    ring
  rw [scaled] at nonneg small ⊢
  generalize exponent + (Token.placesOf symbol : Int) = last at nonneg small ⊢
  by_cases le : place (coefficient * 10 ^ last) ≤ last
  · exact not_roundsUp_of_place_le small le
  · intro up
    have tiny : (coefficient : ℚ) * 10 ^ last < 1 / 2 := by
      by_cases zero : coefficient = 0
      · rw [zero, Nat.cast_zero, zero_mul]
        norm_num
      · rw [place, log_magnitude zero] at le
        simp only [digits, minExponent] at few le
        calc (coefficient : ℚ) * 10 ^ last < 10 ^ (last + Text.digitCount coefficient) :=
              (magnitude_bounds zero last).2
          _ ≤ 10 ^ (-1 : Int) := ten_zpow_le (by omega)
          _ < 1 / 2 := by norm_num
    have whole : (0 : ℚ) ≤ ⌊(coefficient : ℚ) * 10 ^ last⌋ := by
      exact_mod_cast Int.floor_nonneg.mpr nonneg
    have half := half_le_of_roundsUp (place_le_zero nonneg small) up
    linarith

/-- What an amount in base units is to the number that was entered. -/
structure Counts (amount : Decimal) (symbol : String) (units : Int) : Prop where
  least : ⌊exactUnits amount symbol⌋ ≤ units
  most : units ≤ ⌊exactUnits amount symbol⌋ + 1
  floor_iff : units = ⌊exactUnits amount symbol⌋ ↔ ¬ RoundsUp (exactUnits amount symbol)
  covered_iff : units ≤ exactUnits amount symbol ↔ ¬ RoundsUp (exactUnits amount symbol)
  short : amount.digits ≤ 28 → ¬ RoundsUp (exactUnits amount symbol)

theorem counts_nearest {amount : Decimal} (isAmount : amount.isAmount = true) {symbol : String}
    (small : exactUnits amount symbol < 10 ^ 28) :
    Counts amount symbol ⌊nearest (exactUnits amount symbol)⌋ := by
  have nonneg := exactUnits_nonneg isAmount symbol
  have short (few : amount.digits ≤ 28) := not_roundsUp_of_digits isAmount few small
  have low := Int.floor_le (exactUnits amount symbol)
  have high := Int.lt_floor_add_one (exactUnits amount symbol)
  rcases floor_nearest nonneg (place_le_zero nonneg small) with ⟨same, down⟩ | ⟨more, up⟩
  · rw [same]
    exact ⟨le_rfl, by omega, iff_of_true rfl down, iff_of_true low down, short⟩
  · rw [more]
    refine ⟨by omega, le_rfl, iff_of_false (by omega) (not_not.mpr up), ?_, short⟩
    refine iff_of_false (not_le.mpr ?_) (not_not.mpr up)
    push_cast
    exact high

/-- The base units of an amount are the whole part of what it is exactly, or one more where rounding
goes up. An amount that can be read is refused only if it does not fit the precision in units. -/
theorem baseUnits_counts (entered : Json) (symbol : String) :
    (∀ units, baseUnits entered symbol = .ok units →
      ∃ amount, parse entered = .ok amount ∧ Counts amount symbol units) ∧
    ∀ amount, parse entered = .ok amount →
      ((∃ units, baseUnits entered symbol = .ok units) ↔
        exactUnits amount symbol < 10 ^ 28 - 1 / 2) := by
  constructor
  · intro units answered
    obtain ⟨amount, parsed, _⟩ := Except.bind_eq_ok answered
    have isAmount := isAmount_of_parse parsed
    have nonneg := exactUnits_nonneg isAmount symbol
    obtain ⟨fits, exceeds⟩ := baseUnits_of_parse parsed symbol
    refine ⟨amount, parsed, ?_⟩
    by_cases small : nearest (exactUnits amount symbol) < 10 ^ 28
    · obtain rfl : ⌊nearest (exactUnits amount symbol)⌋ = units := by
        simpa [fits small] using answered
      have bounded := (nearest_lt_iff nonneg).mp small
      exact counts_nearest isAmount (by linarith)
    · obtain ⟨fault, refused⟩ := exceeds (not_lt.mp small)
      cases refused.symm.trans answered
  · intro amount parsed
    obtain ⟨fits, exceeds⟩ := baseUnits_of_parse parsed symbol
    rw [← nearest_lt_iff (exactUnits_nonneg (isAmount_of_parse parsed) symbol)]
    constructor
    · rintro ⟨units, answered⟩
      by_contra great
      obtain ⟨fault, refused⟩ := exceeds (not_lt.mp great)
      cases refused.symm.trans answered
    · exact fun small => ⟨_, fits small⟩

theorem baseUnits_counts_cents :
    baseUnits (.str "2.5") "USDC" = .ok 2500000 ∧
      ∃ amount, parse (.str "2.5") = .ok amount ∧ Counts amount "USDC" 2500000 := by
  have answered : baseUnits (.str "2.5") "USDC" = .ok 2500000 := rfl
  exact ⟨answered, (baseUnits_counts _ _).1 _ answered⟩

/-- Of an amount of twenty-nine nines after the point, a whole coin is taken. -/
theorem baseUnits_exceeds :
    ∃ amount, parse (.str "0.99999999999999999999999999999") = .ok amount ∧
      baseUnits (.str "0.99999999999999999999999999999") "ETH" = .ok (10 ^ 18) ∧
      ⌊exactUnits amount "ETH"⌋ = 10 ^ 18 - 1 ∧ exactUnits amount "ETH" < 10 ^ 18 := by
  refine ⟨.finite false 99999999999999999999999999999 (-29), rfl, rfl, ?_⟩
  have units : exactUnits (.finite false 99999999999999999999999999999 (-29)) "ETH" =
      99999999999999999999999999999 / 10 ^ 11 := by
    rw [exactUnits, if_neg (by decide)]
    simp only [value, signed]
    norm_num
  rw [units, Int.floor_eq_iff]
  norm_num

end Amount

end ChainFlow

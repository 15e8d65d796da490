import ChainFlow.Binary64.Shortest
import ChainFlow.Proofs.Binary64.Nearest

/-!
# Numerals that read back as binary numbers

The numeral that is written for a number reads back as the number: it is one that was tried, or the
exact value. Zeros at its end make no difference.
-/

namespace ChainFlow.Binary64

/-- A number with another sign. -/
def withSign (negative : Bool) : Binary64 → Binary64
  | .nan => .nan
  | .infinite _ => .infinite negative
  | .finite _ mantissa exponent => .finite negative mantissa exponent

theorem nearest_withSign (negative : Bool) (value : ℚ) :
    nearest negative value = (nearest false value).withSign negative := by
  unfold nearest settled
  split
  · rfl
  · split
    · rfl
    · split
      · split <;> rfl
      · split <;> rfl

theorem ofDecimal_withSign (negative : Bool) (coefficient : Nat) (exponent : Int) :
    ofDecimal negative coefficient exponent =
      (ofDecimal false coefficient exponent).withSign negative := by
  rw [ofDecimal_eq, ofDecimal_eq, nearest_withSign]

/-! ## Exact values -/

theorem magnitude_eq (mantissa : Nat) (exponent : Int) :
    ((magnitude mantissa exponent).1 : ℚ) / (magnitude mantissa exponent).2 =
      mantissa * 2 ^ exponent := by
  rw [magnitude, scaled_eq, Nat.cast_one, div_one]

theorem magnitude_denominator (mantissa : Nat) (exponent : Int) :
    ∃ power, (magnitude mantissa exponent).2 = 2 ^ power := by
  unfold magnitude scaled
  split
  · exact ⟨0, rfl⟩
  · exact ⟨(-exponent).toNat, Nat.one_mul _⟩

theorem ofDecimal_exact (negative : Bool) (n power : Nat) :
    ofDecimal negative (n * fiveTo power) (-(power : Int)) = nearest negative ((n : ℚ) / 2 ^ power) := by
  rw [ofDecimal_eq]
  congr 1
  have ten : (10 : ℚ) ^ power = 2 ^ power * 5 ^ power := by
    rw [← mul_pow]
    norm_num
  rw [zpow_neg, zpow_natCast, ten, fiveTo_eq]
  push_cast
  field_simp

/-! ## Numerals that were tried -/

theorem ofDecimal_onGrid? {x : Binary64} {n d coefficient : Nat} {power : Int}
    (found : onGrid? x n d power = some coefficient) : ofDecimal false coefficient power = x := by
  unfold onGrid? at found
  dsimp only at found
  split at found
  · next readsBelow readsAbove =>
      cases found
      split
      · exact of_decide_eq_true readsBelow
      · split
        · exact of_decide_eq_true readsAbove
        · rcases Nat.mod_two_eq_zero_or_one (onGrid n d power).1 with even | odd
          · rw [even]
            exact of_decide_eq_true readsBelow
          · rw [odd]
            exact of_decide_eq_true readsAbove
  · next readsBelow _ =>
      cases found
      exact of_decide_eq_true readsBelow
  · next _ readsAbove =>
      cases found
      exact of_decide_eq_true readsAbove
  · cases found

theorem ofDecimal_search {x : Binary64} {n d : Nat}
    (exact : ofDecimal false (n * fiveTo d.log2) (-(d.log2 : Int)) = x) (fuel : Nat) (power : Int) :
    ofDecimal false (search x n d fuel power).1 (search x n d fuel power).2 = x := by
  induction fuel generalizing power with
  | zero => exact exact
  | succ fuel ih =>
      unfold search
      cases found : onGrid? x n d power with
      | some coefficient => exact ofDecimal_onGrid? found
      | none => exact ih (power - 1)

theorem withoutZeros_eq (fuel coefficient : Nat) (exponent : Int) :
    ((withoutZeros fuel coefficient exponent).1 : ℚ) * 10 ^ (withoutZeros fuel coefficient exponent).2 =
      coefficient * 10 ^ exponent := by
  induction fuel generalizing coefficient exponent with
  | zero => rfl
  | succ fuel ih =>
      unfold withoutZeros
      by_cases none : coefficient = 0
      · simp [none]
      · rw [if_neg none]
        by_cases zero : coefficient % 10 = 0
        · have whole : (coefficient : ℚ) = 10 * ((coefficient / 10 : Nat) : ℚ) := by
            exact_mod_cast (Nat.mul_div_cancel' (Nat.dvd_of_mod_eq_zero zero)).symm
          rw [if_pos zero, ih, whole, zpow_add_one₀ (by norm_num)]
          ring
        · rw [if_neg zero]

/-- What is written for a number reads back as the number. -/
theorem ofDecimal_shortest {negative : Bool} {mantissa : Nat} {exponent : Int}
    (canonical : (finite negative mantissa exponent).IsCanonical) :
    ofDecimal negative (shortest mantissa exponent).1 (shortest mantissa exponent).2 =
      .finite negative mantissa exponent := by
  cases canonical with
  | zero => simp [shortest, ofDecimal, zero]
  | finite _ pos fits least greatest full =>
      obtain ⟨power, denominator⟩ := magnitude_denominator mantissa exponent
      have exact : ofDecimal false ((magnitude mantissa exponent).1 *
            fiveTo (magnitude mantissa exponent).2.log2)
          (-((magnitude mantissa exponent).2.log2 : Int)) = .finite false mantissa exponent := by
        have value := magnitude_eq mantissa exponent
        rw [denominator] at value ⊢
        push_cast at value
        rw [Nat.log2_two_pow, ofDecimal_exact, value]
        exact nearest_magnitude false pos fits least greatest full
      have tried := ofDecimal_search exact 17
        (leadingPower (magnitude mantissa exponent).1 (magnitude mantissa exponent).2)
      unfold shortest
      rw [if_neg pos.ne']
      dsimp only
      rw [ofDecimal_eq, withoutZeros_eq, ← ofDecimal_eq, ofDecimal_withSign, tried]
      rfl

theorem shortest_of_zero {mantissa : Nat} {exponent : Int}
    (canonical : (finite false mantissa exponent).IsCanonical)
    (none : (shortest mantissa exponent).1 = 0) : (shortest mantissa exponent).2 = 0 := by
  have reads := ofDecimal_shortest canonical
  rw [none, ofDecimal, if_pos rfl] at reads
  cases reads
  rfl

theorem shortest_lt {mantissa : Nat} {exponent : Int}
    (canonical : (finite false mantissa exponent).IsCanonical) :
    ((shortest mantissa exponent).1 : ℚ) * 10 ^ (shortest mantissa exponent).2 < 10 ^ (310 : Int) := by
  have reads := ofDecimal_shortest canonical
  rw [ofDecimal_eq] at reads
  by_contra above
  rw [nearest_of_le (large_bound.trans (not_lt.mp above))] at reads
  cases reads

/-! ## Numbers below one -/

/-- A number from zero up to one. -/
structure IsFraction (x : Binary64) : Prop where
  canonical : x.IsCanonical
  below : ∃ mantissa exponent, x = .finite false mantissa exponent ∧
    (magnitude mantissa exponent).1 < (magnitude mantissa exponent).2

theorem isFraction_zero : (zero false).IsFraction := by
  refine ⟨.zero false, 0, minExponent, rfl, ?_⟩
  have pos := scaled_pos 0 Nat.one_pos minExponent
  rw [scaled, if_neg (by decide)] at pos
  rwa [magnitude, scaled, if_neg (by decide)]

theorem shortest_lt_one {mantissa : Nat} {exponent : Int}
    (canonical : (finite false mantissa exponent).IsCanonical)
    (below : (magnitude mantissa exponent).1 < (magnitude mantissa exponent).2) :
    ((shortest mantissa exponent).1 : ℚ) * 10 ^ (shortest mantissa exponent).2 < 1 := by
  have reads := ofDecimal_shortest canonical
  rw [ofDecimal_eq] at reads
  refine lt_one_of_nearest reads ?_
  have pos : 0 < (magnitude mantissa exponent).2 := Nat.zero_lt_of_lt below
  rw [← magnitude_eq, div_lt_one (by exact_mod_cast pos)]
  exact_mod_cast below

theorem digitCount_le_of_le_two_pow {n power : Nat} (small : n ≤ 2 ^ power) :
    Text.digitCount n ≤ power + 1 := by
  refine (Text.digitCount_le_iff (Nat.succ_pos power)).mpr (Nat.lt_of_le_of_lt small ?_)
  calc 2 ^ power ≤ 10 ^ power := Nat.pow_le_pow_left (by decide) power
    _ < 10 ^ (power + 1) := Nat.pow_lt_pow_right (by decide) (Nat.lt_succ_self power)

theorem le_leadingPower {n d power : Nat} (small : d ≤ 2 ^ power) :
    -(power : Int) - 1 ≤ leadingPower n d := by
  have count := digitCount_le_of_le_two_pow ((Nat.div_le_self d n).trans small)
  have pos := Text.digitCount_pos (n / d)
  unfold leadingPower
  dsimp only
  split_ifs <;> omega

theorem le_search (x : Binary64) (n d fuel : Nat) (power : Int) :
    min (power - fuel) (-(d.log2 : Int)) ≤ (search x n d fuel power).2 := by
  induction fuel generalizing power with
  | zero => exact min_le_right _ _
  | succ fuel ih =>
      unfold search
      cases onGrid? x n d power with
      | some coefficient =>
          dsimp only
          omega
      | none =>
          have later := ih (power - 1)
          dsimp only
          omega

theorem le_withoutZeros (fuel coefficient : Nat) (exponent : Int) :
    min exponent 0 ≤ (withoutZeros fuel coefficient exponent).2 := by
  induction fuel generalizing coefficient exponent with
  | zero => exact min_le_left _ _
  | succ fuel ih =>
      unfold withoutZeros
      split_ifs
      · exact min_le_right _ _
      · exact (by omega : min exponent 0 ≤ min (exponent + 1) 0).trans (ih _ _)
      · exact min_le_left _ _

theorem le_shortest {mantissa : Nat} {exponent : Int} (least : minExponent ≤ exponent) :
    -1092 ≤ (shortest mantissa exponent).2 := by
  unfold minExponent at least
  obtain ⟨power, denominator, small⟩ :
      ∃ power, (magnitude mantissa exponent).2 = 2 ^ power ∧ power ≤ 1074 := by
    unfold magnitude scaled
    split
    · exact ⟨0, rfl, by omega⟩
    · exact ⟨(-exponent).toNat, Nat.one_mul _, by omega⟩
  unfold shortest
  split
  · decide
  · generalize magnitude mantissa exponent = quotient at denominator
    obtain ⟨n, d⟩ := quotient
    obtain rfl : d = 2 ^ power := denominator
    have first : -(power : Int) - 1 ≤ leadingPower n (2 ^ power) := le_leadingPower le_rfl
    have tried := le_search (.finite false mantissa exponent) n (2 ^ power) 17
      (leadingPower n (2 ^ power))
    rw [Nat.log2_two_pow] at tried
    dsimp only
    generalize search (.finite false mantissa exponent) n (2 ^ power) 17
      (leadingPower n (2 ^ power)) = numeral at tried
    have last := le_withoutZeros (Text.digitCount numeral.1) numeral.1 numeral.2
    push_cast at tried
    omega

end ChainFlow.Binary64

import ChainFlow.Binary64.Basic
import ChainFlow.Proofs.Text.Digit
import Mathlib.Algebra.Order.Floor.Semifield
import Mathlib.Data.Int.Log
import Mathlib.Data.Rat.Floor
import Mathlib.Tactic.FieldSimp
import Mathlib.Tactic.Linarith
import Mathlib.Tactic.NormNum
import Mathlib.Tactic.Positivity
import Mathlib.Tactic.Ring

/-!
# Rounding to binary numbers

`nearest` rounds a rational number to the format: the exponent is that of the binade of the number, or
the least one, and the mantissa is rounded to the nearest, a tie to the even one. `ofRatio` rounds a
quotient in this way however it is written, and `ofDecimal` a numeral.
-/

namespace ChainFlow

@[simp] theorem twoTo_eq (exponent : Nat) : twoTo exponent = 2 ^ exponent := rfl

@[simp] theorem fiveTo_eq (exponent : Nat) : fiveTo exponent = 5 ^ exponent := rfl

namespace Binary64

def halfEven (value : ℚ) : Nat :=
  let whole := ⌊value⌋₊
  if value - whole < 1 / 2 then whole
  else if 1 / 2 < value - whole then whole + 1
  else whole + whole % 2

def binade (value : ℚ) : Int := max minExponent (Int.log 2 value - 52)

def nearest (negative : Bool) (value : ℚ) : Binary64 :=
  if value ≤ 0 then zero negative
  else settled negative (halfEven (value * 2 ^ (-binade value))) (binade value)

theorem two_zpow_pos (exponent : Int) : (0 : ℚ) < 2 ^ exponent := zpow_pos (by norm_num) exponent

/-! ## Quotients -/

theorem nearestEven_eq (n : Nat) {d : Nat} (pos : 0 < d) :
    nearestEven n d = halfEven ((n : ℚ) / d) := by
  have posQ : (0 : ℚ) < d := by exact_mod_cast pos
  have whole : ⌊(n : ℚ) / d⌋₊ = n / d := Nat.floor_div_eq_div n d
  have rest : (n : ℚ) / d - ((n / d : Nat) : ℚ) = ((n % d : Nat) : ℚ) / d := by
    have split : (n : ℚ) = d * ((n / d : Nat) : ℚ) + ((n % d : Nat) : ℚ) := by
      exact_mod_cast (Nat.div_add_mod n d).symm
    rw [eq_div_iff posQ.ne', sub_mul, div_mul_cancel₀ _ posQ.ne']
    linarith
  have below : ((n % d : Nat) : ℚ) / d < 1 / 2 ↔ 2 * (n % d) < d := by
    rw [div_lt_div_iff₀ posQ (by norm_num), one_mul, mul_comm]
    exact_mod_cast Iff.rfl
  have above : 1 / 2 < ((n % d : Nat) : ℚ) / d ↔ d < 2 * (n % d) := by
    rw [div_lt_div_iff₀ (by norm_num) posQ, one_mul, mul_comm]
    exact_mod_cast Iff.rfl
  simp only [halfEven, whole, rest, below, above, nearestEven, gt_iff_lt]

theorem scaled_pos (n : Nat) {d : Nat} (pos : 0 < d) (shift : Int) : 0 < (scaled n d shift).2 := by
  unfold scaled
  split
  · exact pos
  · exact Nat.mul_pos pos (Nat.pow_pos (by decide))

theorem scaled_eq (n d : Nat) (shift : Int) :
    ((scaled n d shift).1 : ℚ) / (scaled n d shift).2 = (n : ℚ) / d * 2 ^ shift := by
  unfold scaled
  split
  · next nonneg =>
      have cast : (2 : ℚ) ^ shift = 2 ^ shift.toNat := by
        rw [← zpow_natCast, Int.toNat_of_nonneg nonneg]
      rw [cast]
      push_cast [twoTo_eq]
      ring
  · next negative =>
      have cast : (2 : ℚ) ^ shift = (2 ^ (-shift).toNat)⁻¹ := by
        rw [← zpow_natCast, Int.toNat_of_nonneg (by omega), zpow_neg, inv_inv]
      rw [cast]
      push_cast [twoTo_eq]
      rw [div_mul_eq_div_div, div_eq_mul_inv (_ / _)]

theorem le_log_iff {value : ℚ} (pos : 0 < value) (exponent : Int) :
    exponent ≤ Int.log 2 value ↔ (2 : ℚ) ^ exponent ≤ value := by
  have iff := Int.zpow_le_iff_le_log (R := ℚ) Nat.one_lt_two pos (x := exponent)
  exact_mod_cast iff.symm

theorem log_lt_iff {value : ℚ} (pos : 0 < value) (exponent : Int) :
    Int.log 2 value < exponent ↔ value < (2 : ℚ) ^ exponent := by
  rw [← not_le, le_log_iff pos, not_le]

theorem log_bounds {n : Nat} (ne : n ≠ 0) :
    (2 : ℚ) ^ (n.log2 : Int) ≤ n ∧ (n : ℚ) < 2 ^ ((n.log2 : Int) + 1) := by
  have low := Nat.log2_self_le ne
  have high := Nat.lt_log2_self (n := n)
  constructor
  · rw [zpow_natCast]
    exact_mod_cast low
  · rw [← Nat.cast_succ, zpow_natCast]
    exact_mod_cast high

/-- The leading powers of a quotient's two parts leave two binades for it. -/
theorem log_quotient {n d : Nat} (numerator : n ≠ 0) (denominator : d ≠ 0) :
    (n.log2 : Int) - d.log2 - 1 ≤ Int.log 2 ((n : ℚ) / d) ∧
      Int.log 2 ((n : ℚ) / d) < (n.log2 : Int) - d.log2 + 1 := by
  obtain ⟨lowN, highN⟩ := log_bounds numerator
  obtain ⟨lowD, highD⟩ := log_bounds denominator
  have posD : (0 : ℚ) < d := by exact_mod_cast Nat.pos_of_ne_zero denominator
  have pos : (0 : ℚ) < (n : ℚ) / d := div_pos (by exact_mod_cast Nat.pos_of_ne_zero numerator) posD
  rw [le_log_iff pos, log_lt_iff pos, le_div_iff₀ posD, div_lt_iff₀ posD]
  constructor
  · calc (2 : ℚ) ^ ((n.log2 : Int) - d.log2 - 1) * d
        ≤ 2 ^ ((n.log2 : Int) - d.log2 - 1) * 2 ^ ((d.log2 : Int) + 1) :=
          mul_le_mul_of_nonneg_left highD.le (two_zpow_pos _).le
      _ = 2 ^ (n.log2 : Int) := by rw [← zpow_add₀ (by norm_num)]; congr 1; ring
      _ ≤ n := lowN
  · calc (n : ℚ) < 2 ^ ((n.log2 : Int) + 1) := highN
      _ = 2 ^ ((n.log2 : Int) - d.log2 + 1) * 2 ^ (d.log2 : Int) := by
          rw [← zpow_add₀ (by norm_num)]; congr 1; ring
      _ ≤ 2 ^ ((n.log2 : Int) - d.log2 + 1) * d :=
          mul_le_mul_of_nonneg_left lowD (two_zpow_pos _).le

theorem exponentOf_eq {n d : Nat} (numerator : n ≠ 0) (denominator : d ≠ 0) :
    exponentOf n d = binade ((n : ℚ) / d) := by
  obtain ⟨low, high⟩ := log_quotient numerator denominator
  have posD := Nat.pos_of_ne_zero denominator
  have pos : (0 : ℚ) < (n : ℚ) / d :=
    div_pos (by exact_mod_cast Nat.pos_of_ne_zero numerator) (by exact_mod_cast posD)
  -- The quotient scaled by the guess says which of the two binades it is.
  have decides : (scaled n d (-((n.log2 : Int) - d.log2 - 52))).1 <
      (scaled n d (-((n.log2 : Int) - d.log2 - 52))).2 * 2 ^ 52 ↔
        Int.log 2 ((n : ℚ) / d) < (n.log2 : Int) - d.log2 := by
    have posS : (0 : ℚ) < (scaled n d (-((n.log2 : Int) - d.log2 - 52))).2 := by
      exact_mod_cast scaled_pos n posD _
    have lt : ((scaled n d (-((n.log2 : Int) - d.log2 - 52))).1 : ℚ) <
        (scaled n d (-((n.log2 : Int) - d.log2 - 52))).2 * 2 ^ 52 ↔
          (n : ℚ) / d < 2 ^ ((n.log2 : Int) - d.log2) := by
      rw [mul_comm, ← div_lt_iff₀ posS, scaled_eq, zpow_neg, ← div_eq_mul_inv,
        div_lt_iff₀ (two_zpow_pos _), ← zpow_natCast, ← zpow_add₀ (by norm_num)]
      norm_num
    rw [log_lt_iff pos, ← lt]
    exact_mod_cast Iff.rfl
  unfold exponentOf binade
  simp only [twoTo_eq, decides]
  congr 1
  split <;> omega

theorem ofRatio_eq (negative : Bool) (n : Nat) {d : Nat} (pos : 0 < d) :
    ofRatio negative n d = nearest negative ((n : ℚ) / d) := by
  unfold ofRatio nearest
  by_cases none : n = 0
  · rw [if_pos none, if_pos (by simp [none])]
  · have positive : ¬ (n : ℚ) / d ≤ 0 := by
      rw [not_le]
      exact div_pos (by exact_mod_cast Nat.pos_of_ne_zero none) (by exact_mod_cast pos)
    rw [if_neg none, if_neg positive, ← exponentOf_eq none pos.ne', ← scaled_eq,
      ← nearestEven_eq _ (scaled_pos n pos _)]

/-! ## Bounds -/

theorem halfEven_bounds {value : ℚ} {low high : Nat} (atLeast : (low : ℚ) ≤ value)
    (below : value < high) : low ≤ halfEven value ∧ halfEven value ≤ high := by
  have nonneg : 0 ≤ value := le_trans (Nat.cast_nonneg low) atLeast
  have lowest : low ≤ ⌊value⌋₊ := Nat.le_floor atLeast
  have highest : ⌊value⌋₊ < high := (Nat.floor_lt nonneg).mpr below
  unfold halfEven
  dsimp only
  split_ifs <;> omega

theorem halfEven_natCast (n : Nat) : halfEven n = n := by
  simp [halfEven]

theorem halfEven_of_lt_half {value : ℚ} (small : value < 1 / 2) :
    halfEven value = 0 := by
  have whole : ⌊value⌋₊ = 0 := Nat.floor_eq_zero.mpr (by linarith)
  unfold halfEven
  rw [whole]
  exact if_pos (by simpa using small)

theorem scaled_lt {value : ℚ} (pos : 0 < value) : value * 2 ^ (-binade value) < 2 ^ 53 := by
  have high : Int.log 2 value < binade value + 53 := by
    unfold binade
    omega
  rw [zpow_neg, ← div_eq_mul_inv, div_lt_iff₀ (two_zpow_pos _), ← zpow_natCast,
    ← zpow_add₀ (by norm_num), add_comm]
  exact (log_lt_iff pos _).mp high

theorem le_scaled {value : ℚ} (pos : 0 < value) (normal : minExponent < binade value) :
    2 ^ 52 ≤ value * 2 ^ (-binade value) := by
  have low : binade value + 52 ≤ Int.log 2 value := by
    unfold binade at normal ⊢
    omega
  rw [zpow_neg, ← div_eq_mul_inv, le_div_iff₀ (two_zpow_pos _), ← zpow_natCast,
    ← zpow_add₀ (by norm_num), add_comm]
  exact (le_log_iff pos _).mp low

/-! ## Numbers that represent themselves -/

/-- The one representation of a number: a mantissa of 53 bits, or fewer at the least exponent. -/
inductive IsCanonical : Binary64 → Prop
  | nan : IsCanonical .nan
  | infinite (negative : Bool) : IsCanonical (.infinite negative)
  | zero (negative : Bool) : IsCanonical (zero negative)
  | finite (negative : Bool) {mantissa : Nat} {exponent : Int} (pos : 0 < mantissa)
      (fits : mantissa < 2 ^ 53) (least : minExponent ≤ exponent) (greatest : exponent ≤ maxExponent)
      (full : minExponent < exponent → 2 ^ 52 ≤ mantissa) :
      IsCanonical (.finite negative mantissa exponent)

theorem IsCanonical.positive {negative : Bool} {mantissa : Nat} {exponent : Int}
    (canonical : (Binary64.finite negative mantissa exponent).IsCanonical) :
    (Binary64.finite false mantissa exponent).IsCanonical := by
  cases canonical with
  | zero => exact .zero false
  | finite _ pos fits least greatest full => exact .finite false pos fits least greatest full

theorem isCanonical_settled (negative : Bool) {mantissa : Nat} {exponent : Int}
    (fits : mantissa ≤ 2 ^ 53) (least : minExponent ≤ exponent)
    (full : minExponent < exponent → 2 ^ 52 ≤ mantissa) :
    (settled negative mantissa exponent).IsCanonical := by
  unfold settled
  split
  · exact .zero negative
  · split
    · split
      · exact .infinite negative
      · exact .finite negative (by norm_num) (by norm_num) (by omega) (by omega) fun _ => le_rfl
    · next fewer =>
        have below : mantissa ≠ 2 ^ 53 := fewer
        split
        · exact .infinite negative
        · exact .finite negative (by omega) (by omega) least (by omega) full

theorem isCanonical_nearest (negative : Bool) (value : ℚ) : (nearest negative value).IsCanonical := by
  unfold nearest
  split
  · exact .zero negative
  · next positive =>
      have pos : 0 < value := not_le.mp positive
      have nonneg : ((0 : Nat) : ℚ) ≤ value * 2 ^ (-binade value) := by
        rw [Nat.cast_zero]
        exact (mul_pos pos (two_zpow_pos _)).le
      have high := scaled_lt pos
      refine isCanonical_settled negative ?_ (le_max_left _ _) fun normal => ?_
      · exact (halfEven_bounds nonneg (by exact_mod_cast high)).2
      · exact (halfEven_bounds (by exact_mod_cast le_scaled pos normal)
          (by exact_mod_cast high)).1

theorem binade_magnitude {mantissa : Nat} {exponent : Int} (pos : 0 < mantissa)
    (fits : mantissa < 2 ^ 53) (least : minExponent ≤ exponent)
    (full : minExponent < exponent → 2 ^ 52 ≤ mantissa) :
    binade ((mantissa : ℚ) * 2 ^ exponent) = exponent := by
  have posQ : (0 : ℚ) < mantissa := by exact_mod_cast pos
  have value : (0 : ℚ) < mantissa * 2 ^ exponent := mul_pos posQ (two_zpow_pos _)
  have below : Int.log 2 ((mantissa : ℚ) * 2 ^ exponent) < 53 + exponent := by
    rw [log_lt_iff value, zpow_add₀ (by norm_num)]
    exact mul_lt_mul_of_pos_right (by exact_mod_cast fits) (two_zpow_pos _)
  unfold binade
  rcases least.lt_or_eq with normal | subnormal
  · have atLeast : 52 + exponent ≤ Int.log 2 ((mantissa : ℚ) * 2 ^ exponent) := by
      rw [le_log_iff value, zpow_add₀ (by norm_num)]
      exact mul_le_mul_of_nonneg_right (by exact_mod_cast full normal) (two_zpow_pos _).le
    omega
  · omega

theorem nearest_magnitude (negative : Bool) {mantissa : Nat} {exponent : Int} (pos : 0 < mantissa)
    (fits : mantissa < 2 ^ 53) (least : minExponent ≤ exponent) (greatest : exponent ≤ maxExponent)
    (full : minExponent < exponent → 2 ^ 52 ≤ mantissa) :
    nearest negative ((mantissa : ℚ) * 2 ^ exponent) = .finite negative mantissa exponent := by
  have posQ : (0 : ℚ) < mantissa := by exact_mod_cast pos
  have value : ¬ (mantissa : ℚ) * 2 ^ exponent ≤ 0 :=
    not_le.mpr (mul_pos posQ (two_zpow_pos _))
  have exact : (mantissa : ℚ) * 2 ^ exponent * 2 ^ (-exponent) = mantissa := by
    rw [mul_assoc, ← zpow_add₀ (by norm_num), add_neg_cancel, zpow_zero, mul_one]
  unfold nearest
  rw [if_neg value, binade_magnitude pos fits least full, exact, halfEven_natCast]
  have whole : mantissa ≠ twoTo 53 := fits.ne
  rw [settled, if_neg pos.ne', if_neg whole, if_neg (not_lt.mpr greatest)]

/-! ## Numerals -/

theorem settled_of_lt {negative : Bool} {mantissa : Nat} {exponent : Int} (pos : mantissa ≠ 0)
    (large : maxExponent < exponent) : settled negative mantissa exponent = .infinite negative := by
  unfold settled
  rw [if_neg pos, if_pos (by omega : exponent + 1 > maxExponent), if_pos large, ite_self]

theorem nearest_of_le {negative : Bool} {value : ℚ} (large : (2 : ℚ) ^ (1024 : Int) ≤ value) :
    nearest negative value = .infinite negative := by
  have pos : 0 < value := lt_of_lt_of_le (two_zpow_pos _) large
  have log := (le_log_iff pos 1024).mpr large
  have exponent : maxExponent < binade value := by
    unfold binade maxExponent
    omega
  have normal : minExponent < binade value := by
    unfold maxExponent at exponent
    unfold minExponent
    omega
  have low : 2 ^ 52 ≤ halfEven (value * 2 ^ (-binade value)) :=
    (halfEven_bounds (by exact_mod_cast le_scaled pos normal) (by exact_mod_cast scaled_lt pos)).1
  unfold nearest
  rw [if_neg (not_le.mpr pos)]
  exact settled_of_lt (by omega) exponent

theorem nearest_of_lt {negative : Bool} {value : ℚ} (pos : 0 < value)
    (small : value < (2 : ℚ) ^ (-1075 : Int)) : nearest negative value = zero negative := by
  have log := (log_lt_iff pos (-1075)).mpr small
  have exponent : binade value = -1074 := by
    unfold binade minExponent
    omega
  have half : value * 2 ^ (1074 : Int) < 1 / 2 := by
    calc value * 2 ^ (1074 : Int) < 2 ^ (-1075 : Int) * 2 ^ (1074 : Int) :=
          mul_lt_mul_of_pos_right small (two_zpow_pos _)
      _ = 1 / 2 := by rw [← zpow_add₀ (by norm_num)]; norm_num
  have none := halfEven_of_lt_half half
  unfold nearest
  rw [if_neg (not_le.mpr pos), exponent, neg_neg, none]
  rfl

/-- What is rounded to a number below one is below one. -/
theorem lt_one_of_nearest {value : ℚ} {mantissa : Nat} {exponent : Int}
    (rounded : nearest false value = .finite false mantissa exponent)
    (small : (mantissa : ℚ) * 2 ^ exponent < 1) : value < 1 := by
  by_contra above
  have large : 1 ≤ value := not_lt.mp above
  have pos : 0 < value := lt_of_lt_of_le one_pos large
  have log : 0 ≤ Int.log 2 value := (le_log_iff pos 0).mpr (by rwa [zpow_zero])
  have least : -52 ≤ binade value := by
    unfold binade
    omega
  have normal : minExponent < binade value := by
    unfold minExponent
    omega
  have low : 2 ^ 52 ≤ halfEven (value * 2 ^ (-binade value)) :=
    (halfEven_bounds (by exact_mod_cast le_scaled pos normal) (by exact_mod_cast scaled_lt pos)).1
  have least_value : ∀ {mantissa : Nat} {exponent : Int}, 2 ^ 52 ≤ mantissa → -52 ≤ exponent →
      1 ≤ (mantissa : ℚ) * 2 ^ exponent := by
    intro mantissa exponent full least
    calc (1 : ℚ) = 2 ^ (52 : Int) * 2 ^ (-52 : Int) := by rw [← zpow_add₀ (by norm_num)]; norm_num
      _ ≤ mantissa * 2 ^ exponent := by
          refine mul_le_mul (by exact_mod_cast full) ?_ (two_zpow_pos _).le (Nat.cast_nonneg _)
          exact zpow_le_zpow_right₀ (by norm_num) least
  unfold nearest settled at rounded
  rw [if_neg (not_le.mpr pos), if_neg (by omega)] at rounded
  split at rounded
  · split at rounded
    · cases rounded
    · cases rounded
      exact absurd small (not_lt.mpr (least_value le_rfl (by omega)))
  · split at rounded
    · cases rounded
    · cases rounded
      exact absurd small (not_lt.mpr (least_value low least))

theorem decimal_bounds {coefficient : Nat} (ne : coefficient ≠ 0) :
    (10 : ℚ) ^ ((Text.digitCount coefficient : Int) - 1) ≤ coefficient ∧
      (coefficient : ℚ) < 10 ^ (Text.digitCount coefficient : Int) := by
  have low := Text.pow_digitCount_le ne
  have high := Text.lt_pow_digitCount coefficient
  have pos := Text.digitCount_pos coefficient
  constructor
  · rw [← Nat.cast_pred pos, zpow_natCast]
    exact_mod_cast low
  · rw [zpow_natCast]
    exact_mod_cast high

theorem large_bound : (2 : ℚ) ^ (1024 : Int) ≤ 10 ^ (310 : Int) := by
  have bound : (2 : Nat) ^ 1024 ≤ 10 ^ 310 := by decide +kernel
  exact_mod_cast bound

theorem small_bound : (10 : ℚ) ^ (-330 : Int) < 2 ^ (-1075 : Int) := by
  have bound : (2 : Nat) ^ 1075 < 10 ^ 330 := by decide +kernel
  rw [zpow_neg, zpow_neg, inv_lt_inv₀ (zpow_pos (by norm_num) _) (two_zpow_pos _)]
  exact_mod_cast bound

theorem ofDecimal_eq (negative : Bool) (coefficient : Nat) (exponent : Int) :
    ofDecimal negative coefficient exponent =
      nearest negative ((coefficient : ℚ) * 10 ^ exponent) := by
  unfold ofDecimal
  by_cases none : coefficient = 0
  · simp [none, nearest]
  obtain ⟨low, high⟩ := decimal_bounds none
  have posC : (0 : ℚ) < coefficient := by exact_mod_cast Nat.pos_of_ne_zero none
  have posE : (0 : ℚ) < 10 ^ exponent := zpow_pos (by norm_num) exponent
  have count : (Nat.toDigits 10 coefficient).length = Text.digitCount coefficient := rfl
  rw [if_neg none]
  simp only [count]
  -- Far outside the range of the format the numeral is not computed.
  split
  · next large =>
      symm
      apply nearest_of_le
      calc (2 : ℚ) ^ (1024 : Int) ≤ 10 ^ (310 : Int) := large_bound
        _ ≤ 10 ^ ((Text.digitCount coefficient : Int) - 1 + exponent) :=
            zpow_le_zpow_right₀ (by norm_num) (by omega)
        _ = 10 ^ ((Text.digitCount coefficient : Int) - 1) * 10 ^ exponent :=
            zpow_add₀ (by norm_num) _ _
        _ ≤ coefficient * 10 ^ exponent := mul_le_mul_of_nonneg_right low posE.le
  · split
    · next small =>
        symm
        apply nearest_of_lt (mul_pos posC posE)
        calc (coefficient : ℚ) * 10 ^ exponent
            < 10 ^ (Text.digitCount coefficient : Int) * 10 ^ exponent :=
              mul_lt_mul_of_pos_right high posE
          _ = 10 ^ ((Text.digitCount coefficient : Int) + exponent) :=
              (zpow_add₀ (by norm_num) _ _).symm
          _ ≤ 10 ^ (-330 : Int) := zpow_le_zpow_right₀ (by norm_num) (by omega)
          _ < 2 ^ (-1075 : Int) := small_bound
    · split
      · next nonneg =>
          have cast : (10 : ℚ) ^ exponent = 10 ^ exponent.toNat := by
            rw [← zpow_natCast, Int.toNat_of_nonneg nonneg]
          rw [ofRatio_eq negative _ Nat.one_pos, cast, tenTo_eq, Nat.cast_one, div_one]
          push_cast
          rfl
      · next below =>
          have cast : (10 : ℚ) ^ exponent = (10 ^ (-exponent).toNat)⁻¹ := by
            rw [← zpow_natCast, Int.toNat_of_nonneg (by omega), zpow_neg, inv_inv]
          rw [tenTo_eq, ofRatio_eq negative _ (Nat.pow_pos (by decide)), cast, ← div_eq_mul_inv]
          push_cast
          rfl

end Binary64

end ChainFlow

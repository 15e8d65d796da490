import ChainFlow.Proofs.Binary64.Nearest
import ChainFlow.Proofs.Decimal.Below

/-!
# Sums of bounded numbers

However many numbers are added up, the sum stays below a bound that is far above each of them: once a
sum is near the bound, what is added is less than half a unit of its last digit and is rounded away
(`isWithin_add`). Other than for costs, nothing is assumed of the exponents.
-/

namespace ChainFlow.Decimal

/-- A finite number whose magnitude is at most a power of ten. -/
inductive IsWithin (power : Int) : Decimal → Prop
  | finite (negative : Bool) {coefficient : Nat} {exponent : Int}
      (bounded : (coefficient : ℚ) * 10 ^ exponent ≤ 10 ^ power) :
      IsWithin power (.finite negative coefficient exponent)

theorem ten_zpow_pos (exponent : Int) : (0 : ℚ) < 10 ^ exponent := zpow_pos (by norm_num) exponent

theorem ten_zpow_le {first second : Int} (le : first ≤ second) : (10 : ℚ) ^ first ≤ 10 ^ second :=
  zpow_le_zpow_right₀ (by norm_num) le

theorem ten_zpow_add (first second : Int) : (10 : ℚ) ^ (first + second) = 10 ^ first * 10 ^ second :=
  zpow_add₀ (by norm_num) first second

theorem IsWithin.mono {power greater : Int} {x : Decimal} (within : IsWithin power x)
    (le : power ≤ greater) : IsWithin greater x := by
  obtain ⟨negative, bounded⟩ := within
  exact .finite negative (bounded.trans (ten_zpow_le le))

theorem isWithin_zero (power : Int) (negative : Bool) (exponent : Int) :
    IsWithin power (.finite negative 0 exponent) :=
  .finite negative (by simpa using (ten_zpow_pos power).le)

theorem IsWithin.lt?_self {power : Int} {x : Decimal} (within : IsWithin power x) :
    (x.lt? x).isNone = false := by
  cases within
  rfl

/-! ## Rounding -/

/-- A multiple of a power of ten that is less than one such power above the bound is not above it. -/
theorem le_of_near {m : Nat} {unit power : Int} (le : unit ≤ power)
    (near : (m : ℚ) * 10 ^ unit < 10 ^ power + 10 ^ unit) : (m : ℚ) * 10 ^ unit ≤ 10 ^ power := by
  obtain ⟨k, rfl⟩ := Int.le.dest le
  rw [ten_zpow_add, zpow_natCast] at near ⊢
  have pos := ten_zpow_pos unit
  have few : (m : ℚ) < 10 ^ k + 1 := by
    refine lt_of_mul_lt_mul_right ?_ pos.le
    linarith
  have whole : m ≤ 10 ^ k := Nat.lt_succ_iff.mp (by exact_mod_cast few)
  have scaled : (m : ℚ) ≤ 10 ^ k := by exact_mod_cast whole
  nlinarith

/-- What fits the precision and is near the bound is not above it. -/
theorem le_of_fits {m : Nat} {unit power : Int} (fits : m ≤ 10 ^ 28) (le : unit ≤ power)
    (near : (m : ℚ) * 10 ^ unit < 10 ^ power + 10 ^ (power - 27)) :
    (m : ℚ) * 10 ^ unit ≤ 10 ^ power := by
  by_cases low : unit ≤ power - 28
  · have scaled : (m : ℚ) ≤ 10 ^ (28 : Int) := by exact_mod_cast fits
    calc (m : ℚ) * 10 ^ unit ≤ 10 ^ (28 : Int) * 10 ^ (power - 28) :=
          mul_le_mul scaled (ten_zpow_le low) (ten_zpow_pos unit).le (ten_zpow_pos 28).le
      _ = 10 ^ power := by rw [← ten_zpow_add]; congr 1; omega
  · have greater : (10 : ℚ) ^ (power - 27) ≤ 10 ^ unit := ten_zpow_le (by omega)
    exact le_of_near le (by linarith)

/-- The leading digit of what is near the bound stands at most at the bound. -/
theorem reach_of_near {coefficient : Nat} {exponent power : Int} (ne : coefficient ≠ 0)
    (near : (coefficient : ℚ) * 10 ^ exponent ≤ 10 ^ power + 10 ^ (power - 29)) :
    exponent + Text.digitCount coefficient ≤ power + 1 := by
  have leading : (10 : ℚ) ^ ((Text.digitCount coefficient : Int) - 1 + exponent) ≤
      coefficient * 10 ^ exponent := by
    rw [ten_zpow_add]
    exact mul_le_mul_of_nonneg_right (Binary64.decimal_bounds ne).1 (ten_zpow_pos exponent).le
  have slack : (10 : ℚ) ^ (power - 29) ≤ 10 ^ power := ten_zpow_le (by omega)
  have next : (10 : ℚ) ^ (power + 1) = 10 ^ power * 10 := by rw [ten_zpow_add, zpow_one]
  have pos := ten_zpow_pos power
  have below : (10 : ℚ) ^ ((Text.digitCount coefficient : Int) - 1 + exponent) < 10 ^ (power + 1) := by
    linarith
  have less := (zpow_lt_zpow_iff_right₀ (by norm_num)).mp below
  omega

theorem drop_mul_zpow_le (coefficient places : Nat) (exponent : Int) :
    2 * ((Rounding.halfEven.drop coefficient places : ℚ) * 10 ^ (exponent + places)) ≤
      2 * (coefficient * 10 ^ exponent) + 10 ^ (exponent + places) := by
  have half : 2 * ((Rounding.halfEven.drop coefficient places : ℚ) * 10 ^ places) ≤
      2 * coefficient + 10 ^ places := by
    exact_mod_cast drop_mul_le .halfEven coefficient places
  have scaled := mul_le_mul_of_nonneg_right half (ten_zpow_pos exponent).le
  rw [ten_zpow_add, zpow_natCast]
  linarith

theorem isWithin_fit (negative : Bool) {coefficient : Nat} {exponent power : Int}
    (least : minExponent + 28 ≤ power) (most : power < maxAdjusted)
    (near : (coefficient : ℚ) * 10 ^ exponent ≤ 10 ^ power + 10 ^ (power - 29)) :
    ∃ x, fit negative coefficient exponent = .ok x ∧ IsWithin power x := by
  have pos := ten_zpow_pos (power - 27)
  have small : (10 : ℚ) ^ (power - 29) = 10 ^ (power - 27) / 100 := by
    rw [show power - 27 = power - 29 + 2 by omega, ten_zpow_add]
    norm_num
  unfold fit
  by_cases zero : coefficient = 0
  · rw [if_pos zero]
    exact ⟨_, rfl, isWithin_zero power negative _⟩
  · have reach := reach_of_near zero near
    have count := Text.digitCount_pos coefficient
    rw [if_neg zero, if_neg (by simp only [adjusted]; omega)]
    dsimp only
    generalize low : max minExponent (exponent + Text.digitCount coefficient - precision) = lowest
    by_cases inside : lowest ≤ exponent
    · have fits : coefficient ≤ 10 ^ 28 :=
        Nat.le_of_lt ((Text.digitCount_le_iff (by decide)).mp (by simp only [precision] at low; omega))
      rw [if_pos inside]
      exact ⟨_, rfl, .finite negative (le_of_fits fits (by omega) (by linarith))⟩
    · obtain ⟨places, place⟩ : ∃ places : Nat, lowest = exponent + places :=
        ⟨(lowest - exponent).toNat, by omega⟩
      have short : Rounding.halfEven.drop coefficient places ≤ 10 ^ 28 := by
        refine drop_le .halfEven (Nat.lt_of_lt_of_le (Text.lt_pow_digitCount coefficient) ?_)
        refine Nat.pow_le_pow_right (by decide) ?_
        simp only [precision] at low
        omega
      have dropped := drop_mul_zpow_le coefficient places exponent
      have within : exponent + places ≤ power - 27 := by
        simp only [precision, minExponent] at low least
        omega
      have unit : (10 : ℚ) ^ (exponent + places) ≤ 10 ^ (power - 27) := ten_zpow_le within
      have nearby : (Rounding.halfEven.drop coefficient places : ℚ) * 10 ^ (exponent + places) <
          10 ^ power + 10 ^ (power - 27) := by linarith
      have bounded := le_of_fits short (by omega) nearby
      rw [if_neg inside, show (lowest - exponent).toNat = places by omega, place]
      generalize Rounding.halfEven.drop coefficient places = kept at bounded short
      have top : tenTo precision = 10 ^ 28 := rfl
      by_cases carry : kept = tenTo precision
      · have digits : Text.digitCount (tenTo (precision - 1)) = 28 := by decide +kernel
        have value : ((tenTo (precision - 1) : Nat) : ℚ) * 10 ^ (exponent + places + 1) =
            kept * 10 ^ (exponent + places) := by
          rw [carry, top, tenTo_eq, ten_zpow_add _ 1, zpow_one]
          push_cast
          simp only [precision]
          ring
        simp only [if_pos carry]
        rw [if_neg (by simp only [adjusted, digits]; omega)]
        exact ⟨_, rfl, .finite negative (value.trans_le bounded)⟩
      · have digits := (Text.digitCount_le_iff (by decide)).mpr (show kept < 10 ^ 28 by omega)
        simp only [if_neg carry]
        rw [if_neg (by simp only [adjusted]; omega)]
        exact ⟨_, rfl, .finite negative bounded⟩

/-! ## Adding -/

section

variable {power : Int} (least : minExponent + 28 ≤ power) (most : power < maxAdjusted)

include least most

theorem isWithin_fit_signed (negative negative₁ negative₂ : Bool) {coefficient₁ coefficient₂ : Nat}
    {exponent : Int} (near : (coefficient₁ : ℚ) * 10 ^ exponent + coefficient₂ * 10 ^ exponent ≤
      10 ^ power + 10 ^ (power - 29)) :
    ∃ sum, fit negative (signed negative₁ coefficient₁ + signed negative₂ coefficient₂).natAbs
      exponent = .ok sum ∧ IsWithin power sum := by
  have total := natAbs_signed_add_le negative₁ negative₂ coefficient₁ coefficient₂
  have cast : ((signed negative₁ coefficient₁ + signed negative₂ coefficient₂).natAbs : ℚ) ≤
      coefficient₁ + coefficient₂ := by exact_mod_cast total
  refine isWithin_fit negative least most (le_trans ?_ near)
  rw [← add_mul]
  exact mul_le_mul_of_nonneg_right cast (ten_zpow_pos exponent).le

omit least most in
theorem shift_eq (coefficient : Nat) {exponent low : Int} (le : low ≤ exponent) :
    ((coefficient * tenTo (exponent - low).toNat : Nat) : ℚ) * 10 ^ low = coefficient * 10 ^ exponent := by
  obtain ⟨k, rfl⟩ := Int.le.dest le
  rw [show (low + k - low).toNat = k by omega, tenTo_eq, ten_zpow_add, zpow_natCast]
  push_cast
  ring

theorem isWithin_addAligned (negative₁ negative₂ : Bool) {coefficient₁ coefficient₂ : Nat}
    {exponent₁ exponent₂ : Int} (ne : coefficient₁ ≠ 0) (ordered : exponent₂ ≤ exponent₁)
    (first : (coefficient₁ : ℚ) * 10 ^ exponent₁ ≤ 10 ^ power)
    (both : (coefficient₁ : ℚ) * 10 ^ exponent₁ + coefficient₂ * 10 ^ exponent₂ ≤
      10 ^ power + 10 ^ (power - 29)) :
    ∃ sum, addAligned negative₁ coefficient₁ exponent₁ negative₂ coefficient₂ exponent₂ = .ok sum ∧
      IsWithin power sum := by
  unfold addAligned
  dsimp only
  generalize low : exponent₁ + min (-1) ((Text.digitCount coefficient₁ : Int) - precision - 2) = floor
  by_cases tiny : adjusted coefficient₂ exponent₂ < floor
  · have reach := reach_of_near ne (first.trans (le_add_of_nonneg_right (ten_zpow_pos _).le))
    have unit : ((1 : Nat) : ℚ) * 10 ^ floor ≤ 10 ^ (power - 29) := by
      rw [Nat.cast_one, one_mul]
      exact ten_zpow_le (by simp only [precision] at low; omega)
    simp only [if_pos tiny]
    apply isWithin_fit_signed least most
    rw [shift_eq coefficient₁ (by omega)]
    exact add_le_add first unit
  · simp only [if_neg tiny]
    apply isWithin_fit_signed least most
    rw [shift_eq coefficient₁ ordered]
    exact both

theorem isWithin_addZero (zeroExponent : Int) (negative : Bool) {coefficient : Nat} {exponent : Int}
    (bounded : (coefficient : ℚ) * 10 ^ exponent ≤ 10 ^ power) :
    ∃ sum, addZero zeroExponent negative coefficient exponent = .ok sum ∧ IsWithin power sum := by
  have near : (coefficient : ℚ) * 10 ^ exponent ≤ 10 ^ power + 10 ^ (power - 29) :=
    bounded.trans (le_add_of_nonneg_right (ten_zpow_pos _).le)
  unfold addZero
  dsimp only
  split
  · next lower =>
    refine isWithin_fit negative least most ?_
    rw [shift_eq coefficient (by simp only [precision] at lower ⊢; omega)]
    exact near
  · exact isWithin_fit negative least most near

/-- What is far below the bound can be added to what is below it, and the sum is below it again. -/
theorem isWithin_add {a b : Decimal} (first : IsWithin power a) (second : IsWithin (power - 29) b) :
    ∃ sum, a.add b = .ok sum ∧ IsWithin power sum := by
  obtain ⟨negative₁, bounded₁⟩ := first
  obtain ⟨negative₂, bounded₂⟩ := second
  rename_i coefficient₁ exponent₁ coefficient₂ exponent₂
  have wide : (coefficient₂ : ℚ) * 10 ^ exponent₂ ≤ 10 ^ power :=
    bounded₂.trans (ten_zpow_le (by omega))
  have both := add_le_add bounded₁ bounded₂
  rcases coefficient₁ with _ | rest₁
  · rcases coefficient₂ with _ | rest₂
    · have zeros : ∃ sum, fit (negative₁ && negative₂) 0 (min exponent₁ exponent₂) = .ok sum ∧
          IsWithin power sum := ⟨_, if_pos rfl, isWithin_zero power _ _⟩
      exact zeros
    · exact isWithin_addZero least most _ negative₂ wide
  · rcases coefficient₂ with _ | rest₂
    · exact isWithin_addZero least most _ negative₁ bounded₁
    · simp only [add, nan?]
      split
      · next ordered =>
        exact isWithin_addAligned least most _ _ (Nat.succ_ne_zero _) ordered bounded₁ both
      · next other =>
        rw [add_comm] at both
        exact isWithin_addAligned least most _ _ (Nat.succ_ne_zero _)
          (Int.le_of_lt (Int.not_le.mp other)) wide both

end

end ChainFlow.Decimal

import ChainFlow.Decimal.Basic
import ChainFlow.Proofs.Text.Digit

/-!
# Sums of costs

However many costs are added up, the sum is never too large for a decimal number. A cost has two
places and at most as many digits as the precision. Once a sum has grown large, a cost is below half
a unit of its last digit and is rounded away; so no sum exceeds 10 to the 62nd hundredths. Numbers
are compared in hundredths here, since no exponent falls below -2.
-/

namespace ChainFlow.Decimal

/-- A number that a cost may be: one with two places that fits the precision, or no number at all. -/
inductive IsCost : Decimal → Prop
  | amount (negative : Bool) {coefficient : Nat} (fits : coefficient < 10 ^ 28) :
      IsCost (.finite negative coefficient (-2))
  | quiet (negative : Bool) (payload : Nat) : IsCost (.nan negative false payload)

/-- A number that a sum of costs may be. -/
inductive IsCostSum : Decimal → Prop
  | amount (negative : Bool) {coefficient shift : Nat} (fits : coefficient < 10 ^ 28)
      (bounded : coefficient * 10 ^ shift ≤ 10 ^ 62) :
      IsCostSum (.finite negative coefficient (shift - 2))
  | quiet (negative : Bool) (payload : Nat) : IsCostSum (.nan negative false payload)

/-! ## Rounding -/

theorem choose_mul_le (rounding : Rounding) (quotient remainder divisor : Nat) :
    2 * (rounding.choose quotient remainder divisor * divisor) ≤
      2 * (quotient * divisor + remainder) + divisor := by
  have next : 2 * ((quotient + 1) * divisor) = 2 * (quotient * divisor) + 2 * divisor := by
    rw [Nat.add_mul, Nat.one_mul, Nat.mul_add]
  cases rounding with
  | down =>
      simp only [Rounding.choose]
      omega
  | halfUp =>
      simp only [Rounding.choose]
      split <;> omega
  | halfEven =>
      simp only [Rounding.choose]
      split
      · omega
      · split
        · omega
        · rcases Nat.mod_two_eq_zero_or_one quotient with even | odd
          · rw [even, Nat.add_zero]
            omega
          · rw [odd]
            omega

theorem drop_mul_le (rounding : Rounding) (coefficient places : Nat) :
    2 * (rounding.drop coefficient places * 10 ^ places) ≤ 2 * coefficient + 10 ^ places := by
  unfold Rounding.drop
  split
  · simp
  · have whole := Nat.div_add_mod' coefficient (10 ^ places)
    have chosen := choose_mul_le rounding (coefficient / 10 ^ places) (coefficient % 10 ^ places)
      (10 ^ places)
    rw [whole] at chosen
    exact chosen

theorem drop_le (rounding : Rounding) {coefficient places digits : Nat}
    (small : coefficient < 10 ^ (digits + places)) : rounding.drop coefficient places ≤ 10 ^ digits := by
  have half := drop_mul_le rounding coefficient places
  have pos : 0 < 10 ^ places := Nat.pow_pos (by decide)
  apply Nat.le_of_not_lt
  intro above
  have more := Nat.mul_le_mul_right (10 ^ places) (Nat.succ_le_of_lt above)
  rw [Nat.succ_mul, ← Nat.pow_add] at more
  omega

/-- Between the bound and the next number of the precision there is room for a cost. -/
theorem mul_pow_le {coefficient shift : Nat} (fits : coefficient < 10 ^ 28)
    (near : coefficient * 10 ^ shift ≤ 10 ^ 62 + 10 ^ 34) : coefficient * 10 ^ shift ≤ 10 ^ 62 := by
  by_cases low : shift ≤ 34
  · have scaled : coefficient * 10 ^ shift ≤ 10 ^ 28 * 10 ^ 34 :=
      Nat.mul_le_mul (Nat.le_of_lt fits) (Nat.pow_le_pow_right (by decide) low)
    omega
  · obtain ⟨rest, rfl⟩ := Nat.exists_eq_add_of_le (show 35 ≤ shift by omega)
    rw [Nat.pow_add, Nat.mul_comm (10 ^ 35), ← Nat.mul_assoc] at near ⊢
    omega

theorem digitCount_add_le {coefficient shift : Nat} (ne : coefficient ≠ 0)
    (near : coefficient * 10 ^ shift ≤ 10 ^ 62 + 10 ^ 34) :
    Text.digitCount coefficient + shift ≤ 63 := by
  have scaled := Nat.mul_le_mul_right (10 ^ shift) (Text.pow_digitCount_le ne)
  rw [← Nat.pow_add] at scaled
  have below : 10 ^ (Text.digitCount coefficient - 1 + shift) < 10 ^ 63 := by omega
  have less := (Nat.pow_lt_pow_iff_right (by decide)).mp below
  omega

theorem drop_mul_pow_le {coefficient places shift : Nat} (small : coefficient < 10 ^ (28 + places))
    (near : coefficient * 10 ^ shift ≤ 10 ^ 62 + 10 ^ 34) (reach : 28 + places + shift ≤ 63) :
    Rounding.halfEven.drop coefficient places * 10 ^ (places + shift) ≤ 10 ^ 62 := by
  by_cases low : places + shift ≤ 34
  · have scaled := Nat.mul_le_mul (drop_le .halfEven small)
      (Nat.pow_le_pow_right (show 0 < 10 by decide) low)
    omega
  · have half := Nat.mul_le_mul_right (10 ^ shift) (drop_mul_le .halfEven coefficient places)
    rw [Nat.add_mul, Nat.mul_assoc, Nat.mul_assoc, Nat.mul_assoc, ← Nat.pow_add,
      show places + shift = 35 by omega] at half
    rw [show places + shift = 35 by omega]
    omega

theorem isCostSum_fit (negative : Bool) {coefficient shift : Nat}
    (near : coefficient * 10 ^ shift ≤ 10 ^ 62 + 10 ^ 34) :
    ∃ sum, fit negative coefficient (shift - 2) = .ok sum ∧ IsCostSum sum := by
  unfold fit
  by_cases zero : coefficient = 0
  · rw [if_pos zero]
    refine ⟨_, rfl, ?_⟩
    obtain ⟨kept, same⟩ : ∃ kept : Nat,
        max minExponent (min maxAdjusted ((shift : Int) - 2)) = (kept : Int) - 2 := by
      refine ⟨(max minExponent (min maxAdjusted ((shift : Int) - 2)) + 2).toNat, ?_⟩
      simp only [minExponent, maxAdjusted]
      omega
    rw [same]
    exact .amount negative (by decide) (by simp)
  · have pos := Text.digitCount_pos coefficient
    have reach := digitCount_add_le zero near
    have lowest : max minExponent ((shift : Int) - 2 + Text.digitCount coefficient - precision) =
        shift + Text.digitCount coefficient - 30 := by
      simp only [minExponent, precision]
      omega
    rw [if_neg zero, if_neg (by simp only [maxAdjusted, adjusted]; omega)]
    simp only [lowest]
    by_cases few : Text.digitCount coefficient ≤ 28
    · rw [if_pos (by omega)]
      have fits := (Text.digitCount_le_iff (by decide)).mp few
      exact ⟨_, rfl, .amount negative fits (mul_pow_le fits near)⟩
    · obtain ⟨places, count⟩ := Nat.exists_eq_add_of_le (show 28 ≤ Text.digitCount coefficient by omega)
      have small : coefficient < 10 ^ (28 + places) := count ▸ Text.lt_pow_digitCount coefficient
      have bounded := drop_mul_pow_le small near (by omega)
      have short : Rounding.halfEven.drop coefficient places ≤ 10 ^ 28 := drop_le .halfEven small
      rw [if_neg (by omega), show ((shift : Int) + Text.digitCount coefficient - 30 - (shift - 2)).toNat =
        places by omega, show (shift : Int) + Text.digitCount coefficient - 30 =
        ((places + shift : Nat) : Int) - 2 by omega]
      generalize Rounding.halfEven.drop coefficient places = kept at bounded short
      have top : tenTo precision = 10 ^ 28 := rfl
      by_cases carry : kept = tenTo precision
      · have count : Text.digitCount (tenTo (precision - 1)) ≤ 28 :=
          (Text.digitCount_le_iff (by decide)).mpr (by decide)
        simp only [if_pos carry]
        rw [if_neg (by simp only [maxAdjusted, adjusted]; omega)]
        refine ⟨_, rfl, ?_⟩
        rw [show ((places + shift : Nat) : Int) - 2 + 1 = ((places + shift + 1 : Nat) : Int) - 2 by omega]
        refine .amount negative (by decide) ?_
        rw [carry, top] at bounded
        rw [Nat.pow_succ, tenTo_eq]
        simp only [precision]
        omega
      · have fits : kept < 10 ^ 28 := by omega
        have count := (Text.digitCount_le_iff (by decide)).mpr fits
        simp only [if_neg carry]
        rw [if_neg (by simp only [maxAdjusted, adjusted]; omega)]
        exact ⟨_, rfl, .amount negative fits bounded⟩

/-! ## Adding -/

theorem natAbs_signed_add_le (negative₁ negative₂ : Bool) (coefficient₁ coefficient₂ : Nat) :
    (signed negative₁ coefficient₁ + signed negative₂ coefficient₂).natAbs ≤
      coefficient₁ + coefficient₂ := by
  unfold signed
  split <;> split <;> omega

theorem isCostSum_fit_signed (negative negative₁ negative₂ : Bool)
    {coefficient₁ coefficient₂ shift : Nat}
    (near : (coefficient₁ + coefficient₂) * 10 ^ shift ≤ 10 ^ 62 + 10 ^ 34) :
    ∃ sum, fit negative (signed negative₁ coefficient₁ + signed negative₂ coefficient₂).natAbs
      (shift - 2) = .ok sum ∧ IsCostSum sum := by
  have total := natAbs_signed_add_le negative₁ negative₂ coefficient₁ coefficient₂
  exact isCostSum_fit negative (Nat.le_trans (Nat.mul_le_mul_right _ total) near)

theorem isCostSum_addAligned (negative₁ negative₂ : Bool) {coefficient₁ coefficient₂ shift : Nat}
    (ne : coefficient₁ ≠ 0) (fits₁ : coefficient₁ < 10 ^ 28)
    (bounded : coefficient₁ * 10 ^ shift ≤ 10 ^ 62) (fits₂ : coefficient₂ < 10 ^ 28) :
    ∃ sum, addAligned negative₁ coefficient₁ (shift - 2) negative₂ coefficient₂ (-2) = .ok sum ∧
      IsCostSum sum := by
  have reach := digitCount_add_le ne (Nat.le_trans bounded (by decide))
  have few := (Text.digitCount_le_iff (by decide)).mpr fits₁
  have pos₁ := Text.digitCount_pos coefficient₁
  have pos₂ := Text.digitCount_pos coefficient₂
  unfold addAligned
  by_cases tiny : adjusted coefficient₂ (-2) <
      (shift : Int) - 2 + min (-1) ((Text.digitCount coefficient₁ : Int) - precision - 2)
  · -- The cost is replaced by one unit that is far below the digits of the sum.
    simp only [if_pos tiny]
    simp only [adjusted, precision] at tiny
    obtain ⟨floor, count⟩ := Nat.exists_eq_add_of_le
      (show 30 ≤ shift + Text.digitCount coefficient₁ by omega)
    rw [show (shift : Int) - 2 + min (-1) ((Text.digitCount coefficient₁ : Int) - precision - 2) =
      (floor : Int) - 2 by simp only [precision]; omega]
    apply isCostSum_fit_signed
    have unit : 10 ^ floor ≤ 10 ^ 33 := Nat.pow_le_pow_right (by decide) (by omega)
    rw [tenTo_eq, Nat.add_mul, Nat.mul_assoc, ← Nat.pow_add,
      show ((shift : Int) - 2 - (floor - 2)).toNat + floor = shift by omega]
    omega
  · simp only [if_neg tiny]
    rw [show (-2 : Int) = ((0 : Nat) : Int) - 2 by decide]
    apply isCostSum_fit_signed
    rw [tenTo_eq, show ((shift : Int) - 2 - ((0 : Nat) - 2)).toNat = shift by omega]
    omega

theorem isCostSum_addZero (zeroExponent : Int) (negative : Bool) {coefficient shift : Nat}
    (low : -2 ≤ zeroExponent) (fits : coefficient < 10 ^ 28)
    (bounded : coefficient * 10 ^ shift ≤ 10 ^ 62) :
    ∃ sum, addZero zeroExponent negative coefficient (shift - 2) = .ok sum ∧ IsCostSum sum := by
  have few := (Text.digitCount_le_iff (by decide)).mpr fits
  unfold addZero
  simp only
  split
  · rename_i lower
    simp only [precision] at lower
    obtain ⟨room, same⟩ : ∃ room : Nat, max (max (min ((shift : Int) - 2) zeroExponent)
        ((shift : Int) - 2 + Text.digitCount coefficient - precision - 1))
        ((shift : Int) - 2 + Text.digitCount coefficient - precision) = (room : Int) - 2 := by
      refine ⟨(max (max (min ((shift : Int) - 2) zeroExponent)
        ((shift : Int) - 2 + Text.digitCount coefficient - precision - 1))
        ((shift : Int) - 2 + Text.digitCount coefficient - precision) + 2).toNat, ?_⟩
      omega
    have within : room ≤ shift := by
      simp only [precision] at same
      omega
    rw [same]
    apply isCostSum_fit
    rw [tenTo_eq, Nat.mul_assoc, ← Nat.pow_add,
      show ((shift : Int) - 2 - (room - 2)).toNat + room = shift by omega]
    omega
  · exact isCostSum_fit negative (Nat.le_trans bounded (by decide))

/-- A cost can be added to a sum of costs, and the result is one again. -/
theorem isCostSum_add {sum cost : Decimal} (isSum : IsCostSum sum) (isCost : IsCost cost) :
    ∃ total, sum.add cost = .ok total ∧ IsCostSum total := by
  cases isSum with
  | quiet negative payload =>
      cases isCost with
      | amount negative' _ => exact ⟨_, rfl, .quiet _ _⟩
      | quiet negative' payload' => exact ⟨_, rfl, .quiet _ _⟩
  | amount negative₁ fits₁ bounded =>
      rename_i coefficient₁ shift
      cases isCost with
      | quiet negative' payload' => exact ⟨_, rfl, .quiet _ _⟩
      | amount negative₂ fits₂ =>
          rename_i coefficient₂
          have ofCost : coefficient₂ * 10 ^ 0 ≤ 10 ^ 62 := by omega
          rcases coefficient₁ with _ | rest₁
          · rcases coefficient₂ with _ | rest₂
            · have least : min ((shift : Int) - 2) (-2) = ((0 : Nat) : Int) - 2 := by omega
              have zeros := @isCostSum_fit (negative₁ && negative₂) 0 0 (by decide)
              rw [← least] at zeros
              exact zeros
            · exact @isCostSum_addZero _ negative₂ _ 0 (by omega) fits₂ ofCost
          · rcases coefficient₂ with _ | rest₂
            · exact isCostSum_addZero _ negative₁ (Int.le_refl _) fits₁ bounded
            · have aligned := isCostSum_addAligned negative₁ negative₂ (Nat.succ_ne_zero _) fits₁
                bounded fits₂
              simp only [add, nan?]
              rw [if_pos (by omega)]
              exact aligned

end ChainFlow.Decimal

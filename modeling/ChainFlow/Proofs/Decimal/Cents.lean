import ChainFlow.Proofs.Decimal.Sum

/-!
# Sums of costs that can be written

A sum of costs is written with two places as long as it stays below 10 to the 28th hundredths, and not
at all from there on. Below that bound sums are exact.
-/

namespace ChainFlow.Decimal

/-- A sum of costs in hundredths; what is no number counts for nothing. -/
def cents : Decimal → Int
  | .finite negative coefficient exponent => signed negative (coefficient * 10 ^ (exponent + 2).toNat)
  | _ => 0

theorem natAbs_signed (negative : Bool) (coefficient : Nat) :
    (signed negative coefficient).natAbs = coefficient := by
  cases negative <;> simp [signed]

theorem signed_natAbs (total : Int) : signed (decide (total < 0)) total.natAbs = total := by
  unfold signed
  by_cases below : total < 0
  · rw [if_pos (decide_eq_true below)]
    omega
  · rw [decide_eq_false below, if_neg Bool.false_ne_true]
    omega

/-- A number of hundredths as a decimal number with two places. -/
def ofCents (total : Int) : Decimal := .finite (total < 0) total.natAbs (-2)

theorem cents_amount (negative : Bool) (coefficient shift : Nat) :
    cents (.finite negative coefficient (shift - 2)) = signed negative (coefficient * 10 ^ shift) := by
  simp [cents]

theorem cents_cost (negative : Bool) (coefficient : Nat) :
    cents (.finite negative coefficient (-2)) = signed negative coefficient := by
  simp [cents]

theorem cents_ofCents (total : Int) : (ofCents total).cents = total := by
  rw [ofCents, cents_cost, signed_natAbs]

/-- A zero that is below zero is the only number with two places that no number of hundredths is. -/
theorem ofCents_signed (negative : Bool) {coefficient : Nat} (ne : coefficient ≠ 0) :
    ofCents (signed negative coefficient) = .finite negative coefficient (-2) := by
  rw [ofCents, natAbs_signed]
  cases negative with
  | false => simp [signed]
  | true =>
      have below : signed true coefficient < 0 := by
        rw [signed, if_pos rfl]
        omega
      rw [decide_eq_true below]

/-! ## Writing a sum -/

theorem digitCount_add_le_iff {coefficient : Nat} (ne : coefficient ≠ 0) (shift : Nat) :
    Text.digitCount coefficient + shift ≤ 28 ↔ coefficient * 10 ^ shift < 10 ^ 28 := by
  have pos := Text.digitCount_pos coefficient
  constructor
  · intro few
    calc coefficient * 10 ^ shift
        < 10 ^ Text.digitCount coefficient * 10 ^ shift :=
          Nat.mul_lt_mul_of_pos_right (Text.lt_pow_digitCount coefficient) (Nat.pow_pos (by decide))
      _ = 10 ^ (Text.digitCount coefficient + shift) := (Nat.pow_add ..).symm
      _ ≤ 10 ^ 28 := Nat.pow_le_pow_right (by decide) few
  · intro small
    have least := Nat.mul_le_mul_right (10 ^ shift) (Text.pow_digitCount_le ne)
    rw [← Nat.pow_add] at least
    have less := (Nat.pow_lt_pow_iff_right (show 1 < 10 by decide)).mp (Nat.lt_of_le_of_lt least small)
    omega

/-- A sum can be written exactly if it is short enough; if it is not, that is an invalid operation. -/
theorem quantize_of_isCostSum (rounding : Rounding) {sum : Decimal} (isSum : IsCostSum sum) :
    (sum.cents.natAbs < 10 ^ 28 → ∃ written, quantize rounding sum (-2) = .ok written) ∧
      (10 ^ 28 ≤ sum.cents.natAbs → quantize rounding sum (-2) = .error .invalid) := by
  cases isSum with
  | quiet negative payload => exact ⟨fun _ => ⟨_, rfl⟩, fun great => by simp [cents] at great⟩
  | @amount negative coefficient shift fits bounded =>
      rw [cents_amount, natAbs_signed]
      by_cases zero : coefficient = 0
      · subst zero
        exact ⟨fun _ => ⟨_, rfl⟩, fun great => by simp at great⟩
      · have few_iff := digitCount_add_le_iff zero shift
        have places : (shift : Int) - 2 - -2 = shift := by omega
        simp only [quantize, if_neg zero, places, precision]
        constructor
        · intro small
          have few := few_iff.mpr small
          rw [if_neg (by omega), if_pos (by omega)]
          exact ⟨_, rfl⟩
        · intro great
          have many := mt few_iff.mp (Nat.not_lt.mpr great)
          rw [if_pos (by omega)]

/-! ## Adding a cost -/

theorem fit_of_lt (negative : Bool) {coefficient : Nat} (small : coefficient < 10 ^ 28) :
    fit negative coefficient (-2) = .ok (.finite negative coefficient (-2)) := by
  unfold fit
  by_cases zero : coefficient = 0
  · rw [if_pos zero, zero]
    rfl
  · have few := (Text.digitCount_le_iff (by decide)).mpr small
    have lowest : max minExponent (-2 + Text.digitCount coefficient - precision) ≤ -2 := by
      simp only [minExponent, precision]
      omega
    rw [if_neg zero, if_neg (by simp only [maxAdjusted, adjusted]; omega)]
    simp only [if_pos lowest]

theorem addZero_of_lt (zeroExponent : Int) (negative : Bool) {coefficient shift : Nat}
    (low : -2 ≤ zeroExponent) (least : zeroExponent = -2 ∨ shift = 0) (ne : coefficient ≠ 0)
    (small : coefficient * 10 ^ shift < 10 ^ 28) :
    addZero zeroExponent negative coefficient (shift - 2) =
      .ok (.finite negative (coefficient * 10 ^ shift) (-2)) := by
  have few := (digitCount_add_le_iff ne shift).mpr small
  have target : max (min ((shift : Int) - 2) zeroExponent)
      ((shift : Int) - 2 + Text.digitCount coefficient - precision - 1) = -2 := by
    simp only [precision]
    omega
  unfold addZero
  simp only [target]
  split
  · rename_i lower
    have room : max (-2) ((shift : Int) - 2 + Text.digitCount coefficient - precision) = -2 := by
      simp only [precision]
      omega
    rw [room, tenTo_eq, show ((shift : Int) - 2 - -2).toNat = shift by omega]
    exact fit_of_lt negative small
  · obtain rfl : shift = 0 := by omega
    rw [Nat.pow_zero, Nat.mul_one] at small ⊢
    exact fit_of_lt negative small

theorem addAligned_of_lt (negative₁ negative₂ : Bool) {coefficient₁ coefficient₂ shift : Nat}
    (ne : coefficient₁ ≠ 0) (small : coefficient₁ * 10 ^ shift + coefficient₂ < 10 ^ 28) :
    addAligned negative₁ coefficient₁ (shift - 2) negative₂ coefficient₂ (-2) =
      .ok (ofCents (signed negative₁ (coefficient₁ * 10 ^ shift) + signed negative₂ coefficient₂)) := by
  have few := (digitCount_add_le_iff ne shift).mpr (by omega)
  have pos := Text.digitCount_pos coefficient₂
  have near : ¬adjusted coefficient₂ (-2) <
      (shift : Int) - 2 + min (-1) ((Text.digitCount coefficient₁ : Int) - precision - 2) := by
    simp only [adjusted, precision]
    omega
  unfold addAligned
  simp only [if_neg near]
  rw [tenTo_eq, show ((shift : Int) - 2 - -2).toNat = shift by omega]
  exact fit_of_lt _ (Nat.lt_of_le_of_lt (natAbs_signed_add_le _ _ _ _) small)

theorem cents_zero (negative : Bool) (exponent : Int) : cents (.finite negative 0 exponent) = 0 := by
  simp [cents, signed]

/-- A sum with one more cost is exact as long as it stays short; with what is no number it is none. -/
theorem cents_add {sum cost : Decimal} (isSum : IsCostSum sum) (isCost : IsCost cost)
    (small : sum.cents.natAbs + cost.cents.natAbs < 10 ^ 28) :
    ∃ total, sum.add cost = .ok total ∧ (total.cents = sum.cents + cost.cents ∨ total.cents = 0) := by
  cases isSum with
  | quiet negative payload =>
      cases isCost with
      | amount negative' _ => exact ⟨_, rfl, .inr rfl⟩
      | quiet negative' payload' => exact ⟨_, rfl, .inr rfl⟩
  | amount negative₁ fits₁ bounded =>
      rename_i coefficient₁ shift
      cases isCost with
      | quiet negative' payload' => exact ⟨_, rfl, .inr rfl⟩
      | amount negative₂ fits₂ =>
          rename_i coefficient₂
          rw [cents_amount, natAbs_signed, cents_cost, natAbs_signed] at small
          rw [cents_amount, cents_cost]
          rcases coefficient₁ with _ | rest₁
          · rcases coefficient₂ with _ | rest₂
            · exact ⟨_, rfl, .inl (by simp [cents_zero, signed])⟩
            · have added := @addZero_of_lt ((shift : Int) - 2) negative₂ _ 0
                (by omega) (.inr rfl) (Nat.succ_ne_zero rest₂) (by omega)
              refine ⟨_, added, .inl ?_⟩
              rw [cents_cost]
              simp [signed]
          · rcases coefficient₂ with _ | rest₂
            · have added := addZero_of_lt (-2) negative₁ (Int.le_refl _) (.inl rfl)
                (Nat.succ_ne_zero rest₁) small
              refine ⟨_, added, .inl ?_⟩
              rw [cents_cost]
              simp [signed]
            · have added := addAligned_of_lt negative₁ negative₂ (Nat.succ_ne_zero rest₁) small
              refine ⟨_, ?_, .inl (cents_ofCents _)⟩
              simp only [add, nan?]
              rw [if_pos (by omega)]
              exact added

end ChainFlow.Decimal

import ChainFlow.Amount
import ChainFlow.Proofs.Decimal.Sum

/-!
# Numbers of bounded size

A number whose digits end before a power of ten is rounded, halved and added to another one without an
overflow, and one that is not too large can be written as a cost.
-/

namespace ChainFlow.Decimal

/-- A finite number that is zero or whose digits end before a power of ten. -/
inductive IsBelow (power : Int) : Decimal → Prop
  | zero (negative : Bool) (exponent : Int) : IsBelow power (.finite negative 0 exponent)
  | digits (negative : Bool) {coefficient : Nat} {exponent : Int}
      (ends : exponent + Text.digitCount coefficient ≤ power) :
      IsBelow power (.finite negative coefficient exponent)

theorem IsBelow.mono {power greater : Int} {x : Decimal} (below : IsBelow power x)
    (le : power ≤ greater) : IsBelow greater x := by
  cases below with
  | zero negative exponent => exact .zero negative exponent
  | digits negative ends => exact .digits negative (Int.le_trans ends le)

theorem digitCount_le_of_le_pow {n k : Nat} (small : n ≤ 10 ^ k) : Text.digitCount n ≤ k + 1 :=
  (Text.digitCount_le_iff (Nat.succ_pos k)).mpr
    (Nat.lt_of_le_of_lt small (Nat.pow_lt_pow_right (by decide) (Nat.lt_succ_self k)))

theorem digitCount_drop_le (rounding : Rounding) (coefficient places : Nat) :
    Text.digitCount (rounding.drop coefficient places) ≤ Text.digitCount coefficient - places + 1 := by
  refine digitCount_le_of_le_pow (drop_le rounding ?_)
  exact Nat.lt_of_lt_of_le (Text.lt_pow_digitCount coefficient)
    (Nat.pow_le_pow_right (by decide) (by omega))

theorem isBelow_fit (negative : Bool) {coefficient : Nat} {exponent power : Int}
    (least : minExponent ≤ power) (most : power < maxAdjusted)
    (ends : coefficient ≠ 0 → exponent + Text.digitCount coefficient ≤ power) :
    ∃ x, fit negative coefficient exponent = .ok x ∧ IsBelow (power + 1) x := by
  unfold fit
  by_cases zero : coefficient = 0
  · rw [if_pos zero]
    exact ⟨_, rfl, .zero _ _⟩
  · have own := ends zero
    have rounded := digitCount_drop_le .halfEven coefficient
    rw [if_neg zero, if_neg (by simp only [adjusted]; omega)]
    dsimp only
    generalize low : max minExponent (exponent + Text.digitCount coefficient - precision) = lowest
    by_cases inside : lowest ≤ exponent
    · rw [if_pos inside]
      exact ⟨_, rfl, .digits negative (by omega)⟩
    · have kept := rounded (lowest - exponent).toNat
      rw [if_neg inside]
      by_cases full : Rounding.halfEven.drop coefficient (lowest - exponent).toNat = tenTo precision
      -- All digits that are kept are nines, and one is carried.
      · have count : Text.digitCount (tenTo (precision - 1)) = 28 := by decide +kernel
        rw [full, show Text.digitCount (tenTo precision) = 29 by decide +kernel] at kept
        simp only [if_pos full]
        rw [if_neg (by simp only [adjusted, count]; omega)]
        refine ⟨_, rfl, .digits negative ?_⟩
        rw [count]
        omega
      · simp only [if_neg full]
        rw [if_neg (by simp only [adjusted]; omega)]
        exact ⟨_, rfl, .digits negative (by omega)⟩

/-! ## Operations -/

theorem isBelow_half {x : Decimal} {power : Int} (least : minExponent ≤ power)
    (most : power < maxAdjusted) (below : IsBelow power x) :
    ∃ half, x.mul (.finite false 5 (-1)) = .ok half ∧ IsBelow (power + 1) half := by
  cases below with
  | zero negative exponent => exact isBelow_fit _ least most fun some_ => absurd rfl some_
  | digits negative ends =>
      rename_i coefficient exponent
      refine isBelow_fit _ least most fun _ => ?_
      have product : coefficient * 5 < 10 ^ (Text.digitCount coefficient + 1) := by
        have own := Text.lt_pow_digitCount coefficient
        rw [Nat.pow_succ]
        omega
      have count := (Text.digitCount_le_iff (Nat.succ_pos _)).mpr product
      omega

theorem isBelow_fit_signed (negative negative₁ negative₂ : Bool) {coefficient₁ coefficient₂ m : Nat}
    {exponent power : Int} (least : minExponent ≤ power) (most : power + 1 < maxAdjusted)
    (first : coefficient₁ < 10 ^ m) (second : coefficient₂ < 10 ^ m) (ends : exponent + m ≤ power) :
    ∃ sum, fit negative (signed negative₁ coefficient₁ + signed negative₂ coefficient₂).natAbs exponent =
      .ok sum ∧ IsBelow (power + 2) sum := by
  have total := natAbs_signed_add_le negative₁ negative₂ coefficient₁ coefficient₂
  have small : (signed negative₁ coefficient₁ + signed negative₂ coefficient₂).natAbs < 10 ^ (m + 1) := by
    rw [Nat.pow_succ]
    omega
  have count := (Text.digitCount_le_iff (Nat.succ_pos m)).mpr small
  have ends' : exponent + Text.digitCount
      (signed negative₁ coefficient₁ + signed negative₂ coefficient₂).natAbs ≤ power + 1 := by omega
  rw [show power + 2 = power + 1 + 1 by omega]
  exact isBelow_fit negative (by omega) most fun _ => ends'

theorem mul_pow_lt {coefficient shift m : Nat} (fits : Text.digitCount coefficient + shift ≤ m) :
    coefficient * 10 ^ shift < 10 ^ m := by
  calc coefficient * 10 ^ shift < 10 ^ Text.digitCount coefficient * 10 ^ shift :=
        Nat.mul_lt_mul_of_pos_right (Text.lt_pow_digitCount coefficient) (Nat.pow_pos (by decide))
    _ = 10 ^ (Text.digitCount coefficient + shift) := (Nat.pow_add _ _ _).symm
    _ ≤ 10 ^ m := Nat.pow_le_pow_right (by decide) fits

section

variable {power : Int} (least : minExponent ≤ power) (most : power + 1 < maxAdjusted)

include least most

theorem isBelow_addAligned (negative₁ negative₂ : Bool) {coefficient₁ coefficient₂ : Nat}
    {exponent₁ exponent₂ : Int} (ordered : exponent₂ ≤ exponent₁)
    (first : exponent₁ + Text.digitCount coefficient₁ ≤ power)
    (second : exponent₂ + Text.digitCount coefficient₂ ≤ power) :
    ∃ sum, addAligned negative₁ coefficient₁ exponent₁ negative₂ coefficient₂ exponent₂ = .ok sum ∧
      IsBelow (power + 2) sum := by
  have pos := Text.digitCount_pos coefficient₁
  unfold addAligned
  dsimp only
  generalize low : exponent₁ + min (-1) ((Text.digitCount coefficient₁ : Int) - precision - 2) = floor
  by_cases tiny : adjusted coefficient₂ exponent₂ < floor
  · obtain ⟨m, place⟩ := Int.eq_ofNat_of_zero_le (show 0 ≤ power - floor by omega)
    have one : 1 < 10 ^ m := Nat.one_lt_pow (by omega) (by decide)
    have shifted : coefficient₁ * 10 ^ (exponent₁ - floor).toNat < 10 ^ m := mul_pow_lt (by omega)
    simp only [if_pos tiny]
    exact isBelow_fit_signed _ _ _ least most shifted one (by omega)
  · obtain ⟨m, place⟩ := Int.eq_ofNat_of_zero_le (show 0 ≤ power - exponent₂ by omega)
    have own : coefficient₂ < 10 ^ m := Nat.lt_of_lt_of_le (Text.lt_pow_digitCount coefficient₂)
      (Nat.pow_le_pow_right (by decide) (by omega))
    have shifted : coefficient₁ * 10 ^ (exponent₁ - exponent₂).toNat < 10 ^ m :=
      mul_pow_lt (by omega)
    simp only [if_neg tiny]
    exact isBelow_fit_signed _ _ _ least most shifted own (by omega)

theorem isBelow_addZero (zeroExponent : Int) (negative : Bool) {coefficient : Nat} {exponent : Int}
    (ends : exponent + Text.digitCount coefficient ≤ power) :
    ∃ sum, addZero zeroExponent negative coefficient exponent = .ok sum ∧ IsBelow (power + 1) sum := by
  unfold addZero
  dsimp only
  split
  · next lower =>
    refine isBelow_fit negative least (by omega) fun _ => ?_
    have within : max (max (min exponent zeroExponent)
        (exponent + Text.digitCount coefficient - precision - 1))
        (exponent + Text.digitCount coefficient - precision) ≤ exponent := by omega
    generalize max (max (min exponent zeroExponent) _) _ = room at within
    have count : Text.digitCount (coefficient * 10 ^ (exponent - room).toNat) ≤
        Text.digitCount coefficient + (exponent - room).toNat :=
      (Text.digitCount_le_iff (Nat.add_pos_left (Text.digitCount_pos coefficient) _)).mpr
        (mul_pow_lt (Nat.le_refl _))
    rw [tenTo_eq]
    omega
  · exact isBelow_fit negative least (by omega) fun _ => ends

theorem isBelow_add {x y : Decimal} (first : IsBelow power x) (second : IsBelow power y) :
    ∃ sum, x.add y = .ok sum ∧ IsBelow (power + 2) sum := by
  have wider : ∀ {result : Except Signal Decimal},
      (∃ sum, result = .ok sum ∧ IsBelow (power + 1) sum) →
        ∃ sum, result = .ok sum ∧ IsBelow (power + 2) sum :=
    fun ⟨sum, same, below⟩ => ⟨sum, same, below.mono (by omega)⟩
  have zeros : ∀ negative exponent, ∃ sum, fit negative 0 exponent = .ok sum ∧
      IsBelow (power + 1) sum := fun negative exponent =>
    isBelow_fit negative least (by omega) fun some_ => absurd rfl some_
  rcases first with ⟨negative₁, exponent₁⟩ | ⟨negative₁, ends₁⟩
  · rcases second with ⟨negative₂, exponent₂⟩ | ⟨negative₂, ends₂⟩
    · exact wider (zeros _ _)
    · rename_i coefficient₂ exponent₂
      rcases coefficient₂ with _ | rest₂
      · exact wider (zeros _ _)
      · exact wider (isBelow_addZero least most _ negative₂ ends₂)
  · rename_i coefficient₁ exponent₁
    rcases coefficient₁ with _ | rest₁
    · rcases second with ⟨negative₂, exponent₂⟩ | ⟨negative₂, ends₂⟩
      · exact wider (zeros _ _)
      · rename_i coefficient₂ exponent₂
        rcases coefficient₂ with _ | rest₂
        · exact wider (zeros _ _)
        · exact wider (isBelow_addZero least most _ negative₂ ends₂)
    · rcases second with ⟨negative₂, exponent₂⟩ | ⟨negative₂, ends₂⟩
      · exact wider (isBelow_addZero least most _ negative₁ ends₁)
      · rename_i coefficient₂ exponent₂
        rcases coefficient₂ with _ | rest₂
        · exact wider (isBelow_addZero least most _ negative₁ ends₁)
        · simp only [add, nan?]
          split
          · next ordered => exact isBelow_addAligned least most _ _ ordered ends₁ ends₂
          · next ordered =>
              exact isBelow_addAligned least most _ _ (Int.le_of_lt (Int.not_le.mp ordered)) ends₂ ends₁

end

/-! ## Costs -/

theorem quantize_of_isBelow (rounding : Rounding) {x : Decimal} (below : IsBelow 25 x) :
    ∃ y, quantize rounding x (-2) = .ok y := by
  cases below with
  | zero negative exponent => exact ⟨_, rfl⟩
  | digits negative ends =>
      rename_i coefficient exponent
      simp only [quantize]
      by_cases zero : coefficient = 0
      · rw [if_pos zero]
        exact ⟨_, rfl⟩
      · rw [if_neg zero, if_neg (by simp only [precision]; omega)]
        split
        · exact ⟨_, rfl⟩
        · have kept := digitCount_drop_le rounding coefficient (-2 - exponent).toNat
          rw [if_neg (by simp only [precision]; omega)]
          exact ⟨_, rfl⟩

theorem formatCost_of_isBelow {x : Decimal} (below : IsBelow 25 x) :
    ∃ text, Amount.formatCost x = .ok text := by
  obtain ⟨y, written⟩ := quantize_of_isBelow .halfUp below
  exact ⟨y.toText, by rw [Amount.formatCost, written]; rfl⟩

end ChainFlow.Decimal

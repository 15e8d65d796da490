import ChainFlow.Proofs.Decimal.Cents
import ChainFlow.Proofs.Decimal.Monotone
import Mathlib.Algebra.BigOperators.Ring.Finset
import Mathlib.Algebra.Order.BigOperators.Group.List

/-!
# Sums that need no rounding

A number fits if 28 digits are enough to write it (`Fits`), wherever its digits are. If the exact sum of
two numbers fits, then it is their sum (`add_standsFor`): such a sum is not rounded, and no part of it
is so small that a unit stands for it (`not_fits_of_tiny`). A list adds up if the sum of every
selection of it fits (`AddUp`).
-/

namespace ChainFlow.Decimal

/-- A number that can be written with the digits of the precision. -/
def Fits (x : ℚ) : Prop :=
  ∃ coefficient exponent : Int, |coefficient| < 10 ^ precision ∧ x = coefficient * 10 ^ exponent

/-- A decimal that is exactly a number, with no digit below the least place. -/
def StandsFor (x : Decimal) (q : ℚ) : Prop :=
  ∃ negative coefficient exponent, x = .finite negative coefficient exponent ∧
    minExponent ≤ exponent ∧ (signed negative coefficient : ℚ) * 10 ^ exponent = q

theorem StandsFor.value_eq {x : Decimal} {q : ℚ} (stands : x.StandsFor q) : x.value = q := by
  obtain ⟨negative, coefficient, exponent, rfl, _, same⟩ := stands
  exact same

theorem standsFor_zero : (ofNat 0).StandsFor 0 := ⟨false, 0, 0, rfl, by decide, by simp [signed]⟩

theorem abs_signed (negative : Bool) (coefficient : Nat) (exponent : Int) :
    |(signed negative coefficient : ℚ) * 10 ^ exponent| = coefficient * 10 ^ exponent := by
  rw [abs_mul, abs_of_pos (ten_zpow_pos exponent)]
  cases negative <;> simp [signed]

theorem Fits.abs {x : ℚ} (fits : Fits x) : Fits |x| := by
  obtain ⟨coefficient, exponent, few, rfl⟩ := fits
  refine ⟨|coefficient|, exponent, by rwa [abs_abs], ?_⟩
  rw [abs_mul, abs_of_pos (ten_zpow_pos exponent), Int.cast_abs]

theorem abs_lt_of_few {coefficient : Int} (few : |coefficient| < 10 ^ precision) (exponent : Int) :
    |(coefficient : ℚ) * 10 ^ exponent| < 10 ^ (exponent + 28) := by
  rw [abs_mul, abs_of_pos (ten_zpow_pos exponent), add_comm exponent, ten_zpow_add, ← Int.cast_abs]
  exact mul_lt_mul_of_pos_right (by exact_mod_cast few) (ten_zpow_pos exponent)

theorem signed_shift (negative : Bool) (coefficient : Nat) {low exponent : Int} (le : low ≤ exponent) :
    (signed negative (coefficient * tenTo (exponent - low).toNat) : ℚ) * 10 ^ low =
      signed negative coefficient * 10 ^ exponent := by
  have same := shift_eq coefficient le
  cases negative with
  | false => simpa only [signed, Bool.false_eq_true, reduceIte, Int.cast_natCast] using same
  | true =>
      simp only [signed, reduceIte, Int.cast_neg, Int.cast_natCast, neg_mul]
      rw [same]

/-! ## Rounding -/

theorem place_le_of_lt {x : ℚ} {exponent : Int} (pos : 0 < x) (least : minExponent ≤ exponent)
    (small : x < 10 ^ (exponent + 28)) : place x ≤ exponent := by
  have log := (lt_ten_zpow_iff_log_lt pos _).mp small
  simp only [place]
  omega

theorem nearest_of_fits {coefficient : Nat} {exponent : Int} (least : minExponent ≤ exponent)
    (fits : Fits (coefficient * 10 ^ exponent)) :
    nearest (coefficient * 10 ^ exponent) = coefficient * 10 ^ exponent := by
  rcases Nat.eq_zero_or_pos coefficient with rfl | some_
  · rw [Nat.cast_zero, zero_mul, zero_nearest]
  have pos := magnitude_pos some_.ne' exponent
  obtain ⟨short, last, few, same⟩ := fits
  have below := abs_lt_of_few few last
  rw [← same, abs_of_pos pos] at below
  -- One of the two ways to write the number has no digit below the place where it is rounded.
  by_cases low : minExponent ≤ last
  · have inside := place_le_of_lt pos low below
    have nonneg : 0 ≤ short := by
      have product : (0 : ℚ) ≤ short * 10 ^ last := same ▸ pos.le
      exact_mod_cast nonneg_of_mul_nonneg_left product (ten_zpow_pos last)
    obtain ⟨n, rfl⟩ := Int.eq_ofNat_of_zero_le nonneg
    rw [same, Int.cast_natCast] at inside ⊢
    exact nearest_of_place_le inside
  · exact nearest_of_place_le (place_le_of_lt pos least (below.trans_le (ten_zpow_le (by omega))))

theorem fit_standsFor {negative : Bool} {coefficient : Nat} {exponent : Int} {y : Decimal}
    (least : minExponent ≤ exponent) (fits : Fits (coefficient * 10 ^ exponent))
    (done : fit negative coefficient exponent = .ok y) :
    y.StandsFor (signed negative coefficient * 10 ^ exponent) := by
  rcases fit_nearest negative coefficient exponent with ⟨kept, power, done', same⟩ | ⟨exceeds, _⟩
  · obtain ⟨kept', power', shape, _, least', _⟩ := fit_eq_ok done'
    cases shape
    rw [done'] at done
    cases done
    rw [nearest_of_fits least fits] at same
    refine ⟨negative, kept, power, rfl, least', ?_⟩
    cases negative <;> simpa [signed] using same
  · rw [exceeds] at done
    cases done

/-! ## Adding -/

theorem addZero_standsFor {zeroExponent : Int} {negative : Bool} {coefficient : Nat} {exponent : Int}
    {y : Decimal} (zeroLeast : minExponent ≤ zeroExponent) (least : minExponent ≤ exponent)
    (fits : Fits (coefficient * 10 ^ exponent))
    (done : addZero zeroExponent negative coefficient exponent = .ok y) :
    y.StandsFor (signed negative coefficient * 10 ^ exponent) := by
  unfold addZero at done
  dsimp only at done
  split at done
  · next lower =>
    generalize low : max (max (min exponent zeroExponent)
      (exponent + (Text.digitCount coefficient : Int) - precision - 1))
      (exponent + Text.digitCount coefficient - precision) = room at done
    have le : room ≤ exponent := by
      simp only [precision] at low lower
      omega
    rw [← shift_eq coefficient le] at fits
    have stands := fit_standsFor (by omega) fits done
    rwa [signed_shift negative coefficient le] at stands
  · exact fit_standsFor least fits done

theorem exists_multiple_of_le {low exponent : Int} (le : low ≤ exponent) (k : Int) :
    ∃ m : Int, (k : ℚ) * 10 ^ exponent = m * 10 ^ low := by
  obtain ⟨n, rfl⟩ := Int.le.dest le
  refine ⟨k * 10 ^ n, ?_⟩
  rw [add_comm low, ten_zpow_add, zpow_natCast, ← mul_assoc]
  push_cast
  rfl

/-- With a part that is far below the last digit that counts, a sum needs too many digits. -/
theorem not_fits_of_tiny (negative₁ negative₂ : Bool) {coefficient₁ coefficient₂ : Nat}
    {exponent₁ exponent₂ : Int} (floor : Int) (ne₁ : coefficient₁ ≠ 0) (ne₂ : coefficient₂ ≠ 0)
    (below : floor ≤ exponent₁) (far : floor + 30 ≤ exponent₁ + Text.digitCount coefficient₁)
    (tiny : exponent₂ + Text.digitCount coefficient₂ ≤ floor) :
    ¬ Fits (signed negative₁ coefficient₁ * 10 ^ exponent₁ +
      signed negative₂ coefficient₂ * 10 ^ exponent₂) := by
  rintro ⟨short, last, few, same⟩
  have great : (10 : ℚ) ^ (floor + 29) ≤ |(signed negative₁ coefficient₁ : ℚ) * 10 ^ exponent₁| := by
    rw [abs_signed]
    exact (ten_zpow_le (by omega)).trans (magnitude_bounds ne₁ exponent₁).1
  have some_ : 0 < |(signed negative₂ coefficient₂ : ℚ) * 10 ^ exponent₂| := by
    rw [abs_signed]
    exact magnitude_pos ne₂ exponent₂
  have small : |(signed negative₂ coefficient₂ : ℚ) * 10 ^ exponent₂| < 10 ^ floor := by
    rw [abs_signed]
    exact (magnitude_bounds ne₂ exponent₂).2.trans_le (ten_zpow_le tiny)
  have unit := ten_zpow_pos floor
  obtain ⟨first, first_eq⟩ := exists_multiple_of_le below (signed negative₁ coefficient₁)
  rw [first_eq] at same great
  generalize (signed negative₂ coefficient₂ : ℚ) * 10 ^ exponent₂ = part at same some_ small
  by_cases high : floor ≤ last
  · -- Then the part is a multiple of a unit that it is below.
    obtain ⟨total, total_eq⟩ := exists_multiple_of_le high short
    have multiple : part = ((total - first : Int) : ℚ) * 10 ^ floor := by
      push_cast
      linarith
    rw [multiple, abs_mul, abs_of_pos unit] at small some_
    have none : |total - first| < 1 := by
      have ratio := lt_of_mul_lt_mul_right (small.trans_eq (one_mul _).symm) unit.le
      exact_mod_cast ratio
    rw [Int.abs_lt_one_iff.mp none] at some_
    simp at some_
  · have whole : |(first : ℚ) * 10 ^ floor + part| < 10 ^ (floor + 27) := by
      rw [same]
      exact (abs_lt_of_few few last).trans_le (ten_zpow_le (by omega))
    have split : |(first : ℚ) * 10 ^ floor| ≤ |(first : ℚ) * 10 ^ floor + part| + |part| := by
      have difference := abs_sub ((first : ℚ) * 10 ^ floor + part) part
      rwa [add_sub_cancel_right] at difference
    have scaled : (10 : ℚ) ^ (floor + 29) = 10 ^ floor * 10 ^ 29 ∧
        (10 : ℚ) ^ (floor + 27) = 10 ^ floor * 10 ^ 27 := by
      constructor <;> rw [ten_zpow_add] <;> norm_num
    rw [scaled.1] at great
    rw [scaled.2] at whole
    linarith

theorem addAligned_standsFor {negative₁ negative₂ : Bool} {coefficient₁ coefficient₂ : Nat}
    {exponent₁ exponent₂ : Int} {y : Decimal} (ne₁ : coefficient₁ ≠ 0) (ne₂ : coefficient₂ ≠ 0)
    (ordered : exponent₂ ≤ exponent₁) (least : minExponent ≤ exponent₂)
    (fits : Fits (signed negative₁ coefficient₁ * 10 ^ exponent₁ +
      signed negative₂ coefficient₂ * 10 ^ exponent₂))
    (done : addAligned negative₁ coefficient₁ exponent₁ negative₂ coefficient₂ exponent₂ = .ok y) :
    y.StandsFor (signed negative₁ coefficient₁ * 10 ^ exponent₁ +
      signed negative₂ coefficient₂ * 10 ^ exponent₂) := by
  unfold addAligned at done
  dsimp only at done
  split at done
  · next tiny =>
    simp only [adjusted, precision] at tiny
    generalize floor_eq : exponent₁ + min (-1) ((Text.digitCount coefficient₁ : Int) - (28 : Nat) - 2) =
      floor at tiny
    exact absurd fits
      (not_fits_of_tiny negative₁ negative₂ floor ne₁ ne₂ (by omega) (by omega) (by omega))
  · dsimp only at done
    generalize total_eq : signed negative₁ (coefficient₁ * tenTo (exponent₁ - exponent₂).toNat) +
      signed negative₂ coefficient₂ = total at done
    have exact : (total : ℚ) * 10 ^ exponent₂ = signed negative₁ coefficient₁ * 10 ^ exponent₁ +
        signed negative₂ coefficient₂ * 10 ^ exponent₂ := by
      rw [← total_eq, Int.cast_add, add_mul, signed_shift negative₁ coefficient₁ ordered]
    rw [← exact] at fits ⊢
    have magnitude : Fits ((total.natAbs : ℚ) * 10 ^ exponent₂) := by
      have positive := fits.abs
      rwa [abs_mul, abs_of_pos (ten_zpow_pos exponent₂), ← Int.cast_abs, ← Nat.cast_natAbs] at positive
    have stands := fit_standsFor least magnitude done
    rwa [signed_natAbs] at stands

/-- A sum that fits is exact. -/
theorem add_standsFor {x y sum : Decimal} {p q : ℚ} (first : x.StandsFor p) (second : y.StandsFor q)
    (fits : Fits (p + q)) (done : x.add y = .ok sum) : sum.StandsFor (p + q) := by
  obtain ⟨negative₁, coefficient₁, exponent₁, rfl, least₁, rfl⟩ := first
  obtain ⟨negative₂, coefficient₂, exponent₂, rfl, least₂, rfl⟩ := second
  have nothing : ∀ (negative : Bool) (exponent : Int), (signed negative 0 : ℚ) * 10 ^ exponent = 0 := by
    intro negative exponent
    cases negative <;> simp [signed]
  rcases coefficient₁ with _ | rest₁
  · rw [nothing, zero_add] at fits ⊢
    rcases coefficient₂ with _ | rest₂
    · have none : Fits ((0 : Nat) * 10 ^ min exponent₁ exponent₂) := by
        rw [Nat.cast_zero, zero_mul]
        rwa [nothing] at fits
      have stands : sum.StandsFor (signed (negative₁ && negative₂) (0 : Nat) * _) :=
        fit_standsFor (by omega) none done
      rwa [nothing] at stands ⊢
    · have magnitude := fits.abs
      rw [abs_signed] at magnitude
      exact addZero_standsFor least₁ least₂ magnitude done
  · rcases coefficient₂ with _ | rest₂
    · rw [nothing, add_zero] at fits ⊢
      have magnitude := fits.abs
      rw [abs_signed] at magnitude
      exact addZero_standsFor least₂ least₁ magnitude done
    · simp only [add, nan?] at done
      split at done
      · next ordered =>
        exact addAligned_standsFor (Nat.succ_ne_zero _) (Nat.succ_ne_zero _) ordered least₂ fits done
      · next ordered =>
        rw [add_comm] at fits ⊢
        exact addAligned_standsFor (Nat.succ_ne_zero _) (Nat.succ_ne_zero _) (by omega) least₁ fits done

/-! ## Comparing -/

theorem lt?_of_standsFor {x y : Decimal} {p q : ℚ} (first : x.StandsFor p) (second : y.StandsFor q) :
    x.lt? y = some (decide (p < q)) := by
  obtain ⟨negative₁, coefficient₁, exponent₁, rfl, _, rfl⟩ := first
  obtain ⟨negative₂, coefficient₂, exponent₂, rfl, _, rfl⟩ := second
  rw [← signed_shift negative₁ coefficient₁ (min_le_left exponent₁ exponent₂),
    ← signed_shift negative₂ coefficient₂ (min_le_right exponent₁ exponent₂)]
  simp only [lt?, mul_lt_mul_iff_left₀ (ten_zpow_pos _), Int.cast_lt]

/-! ## Sums of lists -/

/-- Numbers of which every selection has a sum that fits. -/
def AddUp (values : List ℚ) : Prop := ∀ part : List ℚ, part.Sublist values → Fits part.sum

theorem AddUp.of_subperm {values part : List ℚ} (addUp : AddUp values) (inside : part.Subperm values) :
    Fits part.sum := by
  obtain ⟨same, perm, sublist⟩ := inside
  rw [← perm.sum_eq]
  exact addUp same sublist

theorem AddUp.perm {values others : List ℚ} (addUp : AddUp values) (perm : others.Perm values) :
    AddUp others :=
  fun _ inside => addUp.of_subperm (inside.subperm.trans perm.subperm)

/-- Whole multiples of one unit add up if all of them together have no more digits than the
precision. -/
theorem addUp_of_unit (unit : Int) {counts : List Int}
    (small : (counts.map (|·|)).sum < 10 ^ precision) :
    AddUp (counts.map fun count : Int => (count : ℚ) * 10 ^ unit) := by
  intro part inside
  obtain ⟨chosen, sublist, rfl⟩ := List.sublist_map_iff.mp inside
  refine ⟨chosen.sum, unit, ?_, ?_⟩
  · calc |chosen.sum| ≤ (chosen.map (|·|)).sum :=
          List.le_sum_of_subadditive (|·|) abs_zero.le abs_add_le chosen
      _ ≤ (counts.map (|·|)).sum := by
          refine (sublist.map _).sum_le_sum ?_
          simp
      _ < 10 ^ precision := small
  · rw [List.sum_map_mul_right, Int.cast_list_sum]

end ChainFlow.Decimal

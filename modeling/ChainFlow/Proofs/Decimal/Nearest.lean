import ChainFlow.Proofs.Decimal.Bounded

/-!
# Rounding to the precision

`nearest` rounds a number at its 28th digit, or at the least place there is, a half to the even
neighbour. `fit` rounds in this way however a number is written (`fit_nearest`), and `quantize` cuts
off the fraction of what it leaves.
-/

namespace ChainFlow

theorem Binary64.le_halfEven_iff {n : Nat} {x : ℚ} (nonneg : 0 ≤ x) :
    n ≤ halfEven x ↔ (n : ℚ) - 1 / 2 < x ∨ x = n - 1 / 2 ∧ Even n := by
  have low := Nat.floor_le nonneg
  have high := Nat.lt_floor_add_one x
  obtain ⟨least, most⟩ : ⌊x⌋₊ ≤ halfEven x ∧ halfEven x ≤ ⌊x⌋₊ + 1 :=
    halfEven_bounds low (by exact_mod_cast high)
  rcases Nat.lt_trichotomy n (⌊x⌋₊ + 1) with below | rfl | above
  · have belowQ : (n : ℚ) ≤ ⌊x⌋₊ := by exact_mod_cast Nat.lt_succ_iff.mp below
    exact iff_of_true (by omega) (.inl (by linarith))
  · unfold halfEven
    generalize ⌊x⌋₊ = whole at low high
    push_cast
    split_ifs with less more
    · exact iff_of_false (by omega) (by rintro (near | ⟨tie, _⟩) <;> linarith)
    · exact iff_of_true le_rfl (.inl (by linarith))
    · have tie : x = whole + 1 - 1 / 2 := by linarith
      have parity := Nat.mod_two_eq_zero_or_one whole
      rw [tie]
      simp only [lt_irrefl, false_or, true_and, Nat.even_iff]
      omega
  · have aboveQ : (⌊x⌋₊ : ℚ) + 2 ≤ n := by exact_mod_cast above
    refine iff_of_false (by omega) ?_
    rintro (near | ⟨tie, _⟩) <;> linarith

namespace Decimal

/-- The number that a decimal stands for; what is no number counts as zero. -/
def value : Decimal → ℚ
  | .finite negative coefficient exponent => signed negative coefficient * 10 ^ exponent
  | _ => 0

/-- The place of the last digit that is kept of a number. -/
def place (x : ℚ) : Int := max minExponent (Int.log 10 x - 27)

def nearest (x : ℚ) : ℚ := Binary64.halfEven (x * 10 ^ (-place x)) * 10 ^ place x

theorem zero_nearest : nearest 0 = 0 := by
  rw [nearest, zero_mul, Binary64.halfEven_of_lt_half (by norm_num), Nat.cast_zero, zero_mul]

theorem ten_zpow_le_iff_le_log {x : ℚ} (pos : 0 < x) (exponent : Int) :
    (10 : ℚ) ^ exponent ≤ x ↔ exponent ≤ Int.log 10 x := by
  exact_mod_cast Int.zpow_le_iff_le_log (R := ℚ) (show 1 < 10 by decide) pos (x := exponent)

theorem lt_ten_zpow_iff_log_lt {x : ℚ} (pos : 0 < x) (exponent : Int) :
    x < (10 : ℚ) ^ exponent ↔ Int.log 10 x < exponent := by
  rw [← not_le, ten_zpow_le_iff_le_log pos, not_le]

section

variable {coefficient : Nat} (ne : coefficient ≠ 0) (exponent : Int)

include ne

theorem magnitude_pos : (0 : ℚ) < coefficient * 10 ^ exponent :=
  mul_pos (by exact_mod_cast Nat.pos_of_ne_zero ne) (ten_zpow_pos exponent)

theorem magnitude_bounds :
    (10 : ℚ) ^ (exponent + Text.digitCount coefficient - 1) ≤ coefficient * 10 ^ exponent ∧
      (coefficient : ℚ) * 10 ^ exponent < 10 ^ (exponent + Text.digitCount coefficient) := by
  obtain ⟨low, high⟩ := Binary64.decimal_bounds ne
  have pos := ten_zpow_pos exponent
  constructor
  · rw [show exponent + (Text.digitCount coefficient : Int) - 1 =
      (Text.digitCount coefficient : Int) - 1 + exponent by omega, ten_zpow_add]
    exact mul_le_mul_of_nonneg_right low pos.le
  · rw [add_comm exponent, ten_zpow_add]
    exact mul_lt_mul_of_pos_right high pos

theorem log_magnitude :
    Int.log 10 ((coefficient : ℚ) * 10 ^ exponent) = exponent + Text.digitCount coefficient - 1 := by
  have pos := magnitude_pos ne exponent
  obtain ⟨low, high⟩ := magnitude_bounds ne exponent
  have least := (ten_zpow_le_iff_le_log pos _).mp low
  have most := (lt_ten_zpow_iff_log_lt pos _).mp high
  omega

end

/-! ## Fitting -/

theorem drop_halfEven (coefficient places : Nat) : Rounding.halfEven.drop coefficient places =
    Binary64.halfEven ((coefficient : ℚ) / 10 ^ places) := by
  have pos : 0 < 10 ^ places := Nat.pow_pos (by decide)
  have nearestEven := Binary64.nearestEven_eq coefficient pos
  push_cast at nearestEven
  rw [← nearestEven]
  unfold Rounding.drop
  split
  · next short =>
    have count := Text.lt_pow_digitCount coefficient
    have less : 10 ^ Text.digitCount coefficient * 10 ≤ 10 ^ places := by
      rw [← Nat.pow_succ]
      exact Nat.pow_le_pow_right (by decide) short
    have below : coefficient < 10 ^ places := by omega
    simp only [Binary64.nearestEven, Nat.mod_eq_of_lt below, Nat.div_eq_of_lt below]
    rw [if_pos (by omega)]
  · rfl

/-- A number with no digit below its last place is left as it is. -/
theorem nearest_of_place_le {coefficient : Nat} {exponent : Int}
    (le : place (coefficient * 10 ^ exponent) ≤ exponent) :
    nearest (coefficient * 10 ^ exponent) = coefficient * 10 ^ exponent := by
  unfold nearest
  generalize place _ = last at le
  obtain ⟨k, rfl⟩ := Int.le.dest le
  have whole : (coefficient : ℚ) * 10 ^ (last + k) * 10 ^ (-last) = (coefficient * 10 ^ k : Nat) := by
    rw [mul_assoc, ← ten_zpow_add, show last + (k : Int) + -last = k by omega, zpow_natCast]
    push_cast
    rfl
  rw [whole, Binary64.halfEven_natCast, ten_zpow_add, zpow_natCast]
  push_cast
  ring

theorem nearest_of_le_place {coefficient : Nat} {exponent : Int} {places : Nat}
    (last : place (coefficient * 10 ^ exponent) = exponent + places) :
    nearest (coefficient * 10 ^ exponent) =
      Rounding.halfEven.drop coefficient places * 10 ^ (exponent + places) := by
  have quotient : (coefficient : ℚ) * 10 ^ exponent * 10 ^ (-(exponent + places)) =
      coefficient / 10 ^ places := by
    rw [mul_assoc, ← ten_zpow_add, show exponent + -(exponent + places) = -(places : Int) by omega,
      zpow_neg, zpow_natCast, div_eq_mul_inv]
  rw [nearest, last, quotient, drop_halfEven]

/-- The leading digit is not lost. -/
theorem le_nearest {x : ℚ} {exponent : Int} (least : minExponent + 27 ≤ exponent)
    (le : (10 : ℚ) ^ exponent ≤ x) : (10 : ℚ) ^ exponent ≤ nearest x := by
  have pos : 0 < x := (ten_zpow_pos exponent).trans_le le
  have high : (10 : ℚ) ^ Int.log 10 x ≤ x := (ten_zpow_le_iff_le_log pos _).mpr le_rfl
  have above := (ten_zpow_le_iff_le_log pos _).mp le
  have last : place x = Int.log 10 x - 27 := by
    simp only [place]
    omega
  have digits : ((10 ^ 27 : Nat) : ℚ) ≤ x * 10 ^ (-place x) := by
    calc ((10 ^ 27 : Nat) : ℚ) = 10 ^ Int.log 10 x * 10 ^ (-place x) := by
          rw [← ten_zpow_add, last, show Int.log 10 x + -(Int.log 10 x - 27) = (27 : Nat) by omega,
            zpow_natCast]
          norm_num
      _ ≤ x * 10 ^ (-place x) := mul_le_mul_of_nonneg_right high (ten_zpow_pos _).le
  have kept := (Binary64.le_halfEven_iff (n := 10 ^ 27) (le_trans (Nat.cast_nonneg _) digits)).mpr
    (.inl ((sub_lt_self _ (by norm_num)).trans_le digits))
  have keptQ : ((10 ^ 27 : Nat) : ℚ) ≤ Binary64.halfEven (x * 10 ^ (-place x)) := by
    exact_mod_cast kept
  calc (10 : ℚ) ^ exponent ≤ 10 ^ ((27 : Nat) + place x) := ten_zpow_le (by omega)
    _ = ((10 ^ 27 : Nat) : ℚ) * 10 ^ place x := by rw [ten_zpow_add, zpow_natCast]; norm_num
    _ ≤ nearest x := mul_le_mul_of_nonneg_right keptQ (ten_zpow_pos _).le

theorem le_of_adjusted {coefficient : Nat} {exponent : Int} (ne : coefficient ≠ 0)
    (great : maxAdjusted < adjusted coefficient exponent) :
    (10 : ℚ) ^ (maxAdjusted + 1) ≤ coefficient * 10 ^ exponent := by
  refine (ten_zpow_le ?_).trans (magnitude_bounds ne exponent).1
  simp only [adjusted] at great
  omega

theorem place_magnitude {coefficient : Nat} (ne : coefficient ≠ 0) (exponent : Int) :
    place (coefficient * 10 ^ exponent) =
      max minExponent (exponent + Text.digitCount coefficient - precision) := by
  rw [place, log_magnitude ne]
  simp only [precision]
  omega

/-- A number is rounded to the precision unless that takes it beyond the greatest exponent. -/
theorem fit_nearest (negative : Bool) (coefficient : Nat) (exponent : Int) :
    (∃ coefficient' exponent', fit negative coefficient exponent =
        .ok (.finite negative coefficient' exponent') ∧
      (coefficient' : ℚ) * 10 ^ exponent' = nearest (coefficient * 10 ^ exponent)) ∨
    fit negative coefficient exponent = .error .overflow ∧
      (10 : ℚ) ^ (maxAdjusted + 1) ≤ nearest (coefficient * 10 ^ exponent) := by
  unfold fit
  by_cases zero : coefficient = 0
  · rw [if_pos zero]
    refine .inl ⟨0, _, rfl, ?_⟩
    rw [zero, Nat.cast_zero, zero_mul, zero_mul, zero_nearest]
  rw [if_neg zero]
  by_cases great : maxAdjusted < adjusted coefficient exponent
  · rw [if_pos great]
    exact .inr ⟨rfl, le_nearest (by decide) (le_of_adjusted zero great)⟩
  rw [if_neg great, ← place_magnitude zero]
  simp only [adjusted] at great
  dsimp only
  by_cases inside : place (coefficient * 10 ^ exponent) ≤ exponent
  · rw [if_pos inside]
    exact .inl ⟨coefficient, exponent, rfl, (nearest_of_place_le inside).symm⟩
  have last_eq := place_magnitude zero exponent
  obtain ⟨places, last⟩ : ∃ places : Nat, place (coefficient * 10 ^ exponent) = exponent + places :=
    ⟨(place (coefficient * 10 ^ exponent) - exponent).toNat, by omega⟩
  rw [if_neg inside, nearest_of_le_place last, last,
    show (exponent + places - exponent : Int).toNat = places by omega]
  generalize Rounding.halfEven.drop coefficient places = kept
  by_cases carry : kept = tenTo precision
  -- All digits that are kept were nines, and one is carried.
  · have carried : tenTo (precision - 1) ≠ 0 := by simp [tenTo_eq]
    have same : ((tenTo (precision - 1) : Nat) : ℚ) * 10 ^ (exponent + places + 1) =
        kept * 10 ^ (exponent + places) := by
      rw [carry, ten_zpow_add _ 1, zpow_one]
      simp only [tenTo_eq, precision]
      push_cast
      ring
    simp only [if_pos carry]
    split
    · next great' => exact .inr ⟨rfl, same ▸ le_of_adjusted carried great'⟩
    · exact .inl ⟨_, _, rfl, same⟩
  · simp only [if_neg carry]
    split
    · next great' =>
      have some_ : kept ≠ 0 := by
        rintro rfl
        simp only [adjusted, show Text.digitCount 0 = 1 by rfl] at great'
        simp only [precision, minExponent, maxAdjusted] at *
        omega
      exact .inr ⟨rfl, le_of_adjusted some_ great'⟩
    · exact .inl ⟨_, _, rfl, rfl⟩

/-! ## Cutting off -/

theorem drop_down (coefficient places : Nat) :
    Rounding.down.drop coefficient places = coefficient / 10 ^ places := by
  unfold Rounding.drop
  split
  · next short =>
    have count := Text.lt_pow_digitCount coefficient
    have more : 10 ^ Text.digitCount coefficient ≤ 10 ^ places :=
      Nat.pow_le_pow_right (by decide) (Nat.le_of_lt short)
    rw [Nat.div_eq_of_lt (by omega)]
  · rfl

/-- What has no more whole digits than the precision is cut to a whole number. -/
theorem quantize_down (negative : Bool) (coefficient : Nat) (exponent : Int) :
    ((coefficient : ℚ) * 10 ^ exponent < 10 ^ 28 →
      quantize .down (.finite negative coefficient exponent) 0 =
        .ok (.finite negative ⌊(coefficient : ℚ) * 10 ^ exponent⌋₊ 0)) ∧
    ((10 : ℚ) ^ 28 ≤ coefficient * 10 ^ exponent →
      quantize .down (.finite negative coefficient exponent) 0 = .error .invalid) := by
  by_cases zero : coefficient = 0
  · subst zero
    rw [Nat.cast_zero, zero_mul, Nat.floor_zero]
    exact ⟨fun _ => rfl, fun great => absurd great (by norm_num)⟩
  have pos := magnitude_pos zero exponent
  have log := log_magnitude zero exponent
  have few : (coefficient : ℚ) * 10 ^ exponent < 10 ^ 28 ↔
      exponent + Text.digitCount coefficient ≤ 28 := by
    rw [← zpow_natCast, lt_ten_zpow_iff_log_lt pos, log]
    omega
  simp only [quantize, if_neg zero, Int.sub_zero, precision]
  constructor
  · intro small
    have digits := few.mp small
    rw [if_neg (by omega)]
    by_cases whole : 0 ≤ exponent
    · obtain ⟨k, rfl⟩ := Int.eq_ofNat_of_zero_le whole
      rw [if_pos whole, tenTo_eq, zpow_natCast, Int.toNat_natCast]
      congr 2
      exact_mod_cast (Nat.floor_natCast (coefficient * 10 ^ k) (R := ℚ)).symm
    · obtain ⟨k, same⟩ := Int.eq_ofNat_of_zero_le (show 0 ≤ -exponent by omega)
      obtain rfl : exponent = -k := by omega
      have quotient : ⌊(coefficient : ℚ) * 10 ^ (-(k : Int))⌋₊ = coefficient / 10 ^ k := by
        rw [zpow_neg, zpow_natCast, ← div_eq_mul_inv, ← Nat.floor_div_eq_div (K := ℚ)]
        push_cast
        rfl
      have short : coefficient / 10 ^ k < 10 ^ 28 := by
        rw [← quotient]
        exact (Nat.floor_lt pos.le).mpr (by exact_mod_cast small)
      rw [if_neg whole, drop_down, Int.zero_sub, Int.neg_neg, Int.toNat_natCast, quotient]
      exact if_neg (Nat.not_lt.mpr ((Text.digitCount_le_iff (by decide)).mpr short))
  · intro great
    have digits := mt few.mpr (not_lt.mpr great)
    rw [if_pos (by omega)]

/-! ## Whole parts -/

/-- Whether rounding takes a number up to the next whole one: it is less than half a unit of its last
place below that, or just half a unit if the neighbour above is the even one. -/
def RoundsUp (x : ℚ) : Prop :=
  2 * (⌊x⌋ + 1 - x) < 10 ^ place x ∨
    2 * (⌊x⌋ + 1 - x) = 10 ^ place x ∧ (place x < 0 ∨ Odd ⌊x⌋)

theorem place_le_zero {x : ℚ} (nonneg : 0 ≤ x) (small : x < 10 ^ 28) : place x ≤ 0 := by
  rcases nonneg.eq_or_lt with rfl | pos
  · simp only [place, Int.log_zero_right]
    decide
  · rw [← zpow_natCast, lt_ten_zpow_iff_log_lt pos] at small
    simp only [place, minExponent]
    omega

theorem half_le_of_roundsUp {x : ℚ} (last : place x ≤ 0) (up : RoundsUp x) :
    (⌊x⌋ : ℚ) + 1 / 2 ≤ x := by
  have unit : (10 : ℚ) ^ place x ≤ 1 := by simpa using ten_zpow_le last
  rcases up with near | ⟨tie, _⟩ <;> linarith

theorem floor_nearest {x : ℚ} (nonneg : 0 ≤ x) (last : place x ≤ 0) :
    ⌊nearest x⌋ = ⌊x⌋ ∧ ¬ RoundsUp x ∨ ⌊nearest x⌋ = ⌊x⌋ + 1 ∧ RoundsUp x := by
  obtain ⟨j, same⟩ := Int.eq_ofNat_of_zero_le (Int.neg_nonneg.mpr last)
  have place_eq : place x = -j := by omega
  obtain ⟨m, floor_eq⟩ := Int.eq_ofNat_of_zero_le (Int.floor_nonneg.mpr nonneg)
  have low : (m : ℚ) ≤ x := by exact_mod_cast floor_eq ▸ Int.floor_le x
  have high : x < (m : ℚ) + 1 := by exact_mod_cast floor_eq ▸ Int.lt_floor_add_one x
  have scale : (0 : ℚ) < 10 ^ j := pow_pos (by norm_num) j
  -- Between two whole numbers there are as many units of the last place as `10 ^ j` says.
  have kept : nearest x = Binary64.halfEven (x * 10 ^ j) / 10 ^ j := by
    rw [nearest, place_eq, Int.neg_neg, zpow_natCast, zpow_neg, zpow_natCast, div_eq_mul_inv]
  obtain ⟨least, most⟩ : m * 10 ^ j ≤ Binary64.halfEven (x * 10 ^ j) ∧
      Binary64.halfEven (x * 10 ^ j) ≤ (m + 1) * 10 ^ j := by
    apply Binary64.halfEven_bounds
    · push_cast
      exact mul_le_mul_of_nonneg_right low scale.le
    · push_cast
      exact mul_lt_mul_of_pos_right high scale
  have parity : (place x < 0 ∨ Odd ⌊x⌋) ↔ Even ((m + 1) * 10 ^ j) := by
    rw [place_eq, floor_eq, Nat.even_mul, Nat.even_pow, Nat.even_add_one, Nat.not_even_iff_odd]
    have whole : Odd (m : Int) ↔ Odd m := Int.odd_coe_nat m
    have ten : Even 10 := by decide
    rw [whole, and_iff_right ten, or_comm]
    exact or_congr_right (by omega)
  have up : RoundsUp x ↔ (m + 1) * 10 ^ j ≤ Binary64.halfEven (x * 10 ^ j) := by
    rw [Binary64.le_halfEven_iff (mul_nonneg nonneg scale.le), ← parity, RoundsUp, floor_eq, place_eq,
      zpow_neg, zpow_natCast, ← one_div, lt_div_iff₀ scale, eq_div_iff scale.ne']
    push_cast
    refine or_congr ?_ (and_congr_left fun _ => ?_)
    · constructor <;> intro near <;> linarith
    · constructor <;> intro near <;> linarith
  by_cases above : RoundsUp x
  · refine .inr ⟨?_, above⟩
    rw [kept, Nat.le_antisymm most (up.mp above), floor_eq]
    push_cast
    rw [mul_div_cancel_right₀ _ scale.ne']
    exact_mod_cast Int.floor_intCast ((m : Int) + 1)
  · refine .inl ⟨?_, above⟩
    have below := Nat.not_le.mp (mt up.mpr above)
    have leastQ : (m : ℚ) * 10 ^ j ≤ Binary64.halfEven (x * 10 ^ j) := by exact_mod_cast least
    have belowQ : (Binary64.halfEven (x * 10 ^ j) : ℚ) < (m + 1) * 10 ^ j := by exact_mod_cast below
    rw [kept, floor_eq, Int.floor_eq_iff]
    constructor
    · rw [le_div_iff₀ scale]
      exact_mod_cast leastQ
    · rw [div_lt_iff₀ scale]
      exact_mod_cast belowQ

theorem not_roundsUp_of_place_le {coefficient : Nat} {exponent : Int}
    (small : (coefficient : ℚ) * 10 ^ exponent < 10 ^ 28)
    (le : place (coefficient * 10 ^ exponent) ≤ exponent) :
    ¬ RoundsUp (coefficient * 10 ^ exponent) := by
  have nonneg : (0 : ℚ) ≤ coefficient * 10 ^ exponent :=
    mul_nonneg (Nat.cast_nonneg _) (ten_zpow_pos _).le
  rcases floor_nearest nonneg (place_le_zero nonneg small) with ⟨_, down⟩ | ⟨more, _⟩
  · exact down
  · rw [nearest_of_place_le le] at more
    omega

/-- Half a unit below the greatest whole number of the precision, rounding leaves the precision. -/
theorem nearest_lt_iff {x : ℚ} (nonneg : 0 ≤ x) : nearest x < 10 ^ 28 ↔ x < 10 ^ 28 - 1 / 2 := by
  by_cases small : x < 10 ^ 28
  · have last := place_le_zero nonneg small
    have floor_lt : ⌊x⌋ < 10 ^ 28 := Int.floor_lt.mpr (by exact_mod_cast small)
    have whole : nearest x < 10 ^ 28 ↔ ⌊nearest x⌋ < 10 ^ 28 := by
      rw [Int.floor_lt]
      exact_mod_cast Iff.rfl
    rw [whole]
    rcases floor_nearest nonneg last with ⟨same, down⟩ | ⟨more, up⟩
    · refine iff_of_true (same ▸ floor_lt) (not_le.mp fun near => down ?_)
      have floor_eq : ⌊x⌋ = 10 ^ 28 - 1 := by
        rw [Int.floor_eq_iff]
        push_cast
        exact ⟨by linarith, by linarith⟩
      have place_eq : place x = 0 := by
        have pos : 0 < x := lt_of_lt_of_le (by norm_num) near
        have least : (10 : ℚ) ^ (27 : Int) ≤ x := le_trans (by norm_num) near
        have log := (ten_zpow_le_iff_le_log pos _).mp least
        simp only [place] at last ⊢
        omega
      rw [RoundsUp, floor_eq, place_eq, zpow_zero]
      push_cast
      rcases near.eq_or_lt with tie | above
      · exact .inr ⟨by linarith, .inr (by decide)⟩
      · exact .inl (by linarith)
    · have near := half_le_of_roundsUp last up
      rw [more]
      constructor
      · intro less
        have lessQ : ((⌊x⌋ + 1 : Int) : ℚ) + 1 ≤ 10 ^ 28 := by exact_mod_cast less
        push_cast at lessQ
        have high := Int.lt_floor_add_one x
        linarith
      · intro less
        have lessQ : ((⌊x⌋ + 1 : Int) : ℚ) < 10 ^ 28 := by
          push_cast
          linarith
        exact_mod_cast lessQ
  · refine iff_of_false (not_lt.mpr ?_) (by linarith)
    have great : (10 : ℚ) ^ (28 : Int) ≤ x := by exact_mod_cast not_lt.mp small
    exact_mod_cast le_nearest (by decide) great

end Decimal

end ChainFlow

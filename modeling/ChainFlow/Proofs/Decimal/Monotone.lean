import ChainFlow.Proofs.Amount

/-!
# Operations that keep the order

A greater number is rounded to no lesser one (`nearest_mono`). So an operation that rounds an exact
result is monotone, and where it succeeds for a number it succeeds for every lesser one
(`Rounds.mono`). On numbers that are not negative that holds of products, of hundredths, of sums with
one, and of writing a number with two places, a half going up.
-/

namespace ChainFlow

theorem Binary64.halfEven_mono {x y : ℚ} (nonneg : 0 ≤ x) (le : x ≤ y) : halfEven x ≤ halfEven y := by
  rw [le_halfEven_iff (nonneg.trans le)]
  rcases (le_halfEven_iff nonneg).mp le_rfl with above | ⟨tie, even⟩
  · exact .inl (above.trans_le le)
  · rcases le.eq_or_lt with rfl | less
    · exact .inr ⟨tie, even⟩
    · exact .inl (tie ▸ less)

theorem Binary64.halfEven_add_of_lt_half (n : Nat) {rest : ℚ} (nonneg : 0 ≤ rest)
    (small : rest < 1 / 2) : halfEven (n + rest) = n := by
  have whole : ⌊(n : ℚ) + rest⌋₊ = n := by
    rw [Nat.floor_eq_iff (add_nonneg (Nat.cast_nonneg n) nonneg)]
    constructor <;> linarith
  unfold halfEven
  rw [whole]
  exact if_pos (by linarith)

namespace Decimal

/-! ## Rounding -/

theorem place_mono {x y : ℚ} (pos : 0 < x) (le : x ≤ y) : place x ≤ place y := by
  have log : Int.log 10 x ≤ Int.log 10 y :=
    (ten_zpow_le_iff_le_log (pos.trans_le le) _).mp
      (((ten_zpow_le_iff_le_log pos _).mpr le_rfl).trans le)
  unfold place
  omega

/-- A number below a power of ten that has its last place or a higher one is not rounded beyond it. -/
theorem nearest_le {x : ℚ} {power : Int} (nonneg : 0 ≤ x) (last : place x ≤ power)
    (le : x ≤ 10 ^ power) : nearest x ≤ 10 ^ power := by
  obtain ⟨k, same⟩ := Int.le.dest last
  have unit := ten_zpow_pos (place x)
  have split : (10 : ℚ) ^ power = (10 ^ k : Nat) * 10 ^ place x := by
    rw [← same, add_comm, ten_zpow_add, zpow_natCast]
    norm_num
  have scaled : x * 10 ^ (-place x) ≤ (10 ^ k : Nat) := by
    rw [zpow_neg, ← div_eq_mul_inv, div_le_iff₀ unit, ← split]
    exact le
  have kept : Binary64.halfEven (x * 10 ^ (-place x)) ≤ 10 ^ k := by
    rw [← Binary64.halfEven_natCast (10 ^ k)]
    exact Binary64.halfEven_mono (mul_nonneg nonneg (ten_zpow_pos _).le) scaled
  rw [nearest, split]
  exact mul_le_mul_of_nonneg_right (by exact_mod_cast kept) unit.le

theorem nearest_nonneg (x : ℚ) : 0 ≤ nearest x :=
  mul_nonneg (Nat.cast_nonneg _) (ten_zpow_pos _).le

theorem nearest_mono {x y : ℚ} (nonneg : 0 ≤ x) (le : x ≤ y) : nearest x ≤ nearest y := by
  rcases nonneg.eq_or_lt with rfl | pos
  · rw [zero_nearest]
    exact nearest_nonneg y
  rcases (place_mono pos le).eq_or_lt with same | less
  · rw [nearest, nearest, same]
    refine mul_le_mul_of_nonneg_right (Nat.cast_le.mpr (Binary64.halfEven_mono ?_ ?_))
      (ten_zpow_pos _).le
    · exact mul_nonneg nonneg (ten_zpow_pos _).le
    · exact mul_le_mul_of_nonneg_right le (ten_zpow_pos _).le
  -- A power of ten lies between the two, and neither is rounded across it.
  · have posY := pos.trans_le le
    have log : place y = Int.log 10 y - 27 := by
      simp only [place] at less ⊢
      omega
    have below : x ≤ 10 ^ Int.log 10 y := by
      refine ((lt_ten_zpow_iff_log_lt pos _).mpr ?_).le
      simp only [place] at less log
      omega
    have above : (10 : ℚ) ^ Int.log 10 y ≤ y := (ten_zpow_le_iff_le_log posY _).mpr le_rfl
    refine (nearest_le nonneg (by omega) below).trans (le_nearest ?_ above)
    simp only [place] at less log
    omega

/-- What is added two places below the 28 digits of a number is rounded away. -/
theorem nearest_add_of_le {coefficient : Nat} {exponent : Int} {rest : ℚ} (ne : coefficient ≠ 0)
    (short : Text.digitCount coefficient ≤ precision)
    (least : minExponent ≤ exponent + Text.digitCount coefficient - precision) (nonneg : 0 ≤ rest)
    (small : rest ≤ 10 ^ (exponent + Text.digitCount coefficient - precision - 2)) :
    nearest (coefficient * 10 ^ exponent + rest) = coefficient * 10 ^ exponent := by
  have pos := magnitude_pos ne exponent
  obtain ⟨low, _⟩ := magnitude_bounds ne exponent
  simp only [precision] at short least small
  -- The digits end where they did, since the coefficient is below a power of ten by one at least.
  have high : (coefficient : ℚ) * 10 ^ exponent + rest <
      10 ^ (exponent + Text.digitCount coefficient) := by
    have next : (coefficient : ℚ) + 1 ≤ 10 ^ Text.digitCount coefficient := by
      exact_mod_cast Text.lt_pow_digitCount coefficient
    have fraction : rest < 10 ^ exponent := by
      refine small.trans_lt ?_
      exact zpow_lt_zpow_right₀ (by norm_num) (by omega)
    calc (coefficient : ℚ) * 10 ^ exponent + rest
        < coefficient * 10 ^ exponent + 10 ^ exponent := by linarith
      _ = (coefficient + 1) * 10 ^ exponent := by ring
      _ ≤ 10 ^ Text.digitCount coefficient * 10 ^ exponent :=
          mul_le_mul_of_nonneg_right next (ten_zpow_pos exponent).le
      _ = 10 ^ (exponent + Text.digitCount coefficient) := by
          rw [add_comm exponent, ten_zpow_add, zpow_natCast]
  have total : 0 < (coefficient : ℚ) * 10 ^ exponent + rest := by linarith
  have most := (lt_ten_zpow_iff_log_lt total _).mp high
  have above := (ten_zpow_le_iff_le_log total _).mp (low.trans (le_add_of_nonneg_right nonneg))
  obtain ⟨places, digits⟩ := Nat.exists_eq_add_of_le short
  have last : place (coefficient * 10 ^ exponent + rest) = exponent - places := by
    simp only [place]
    omega
  have fraction : rest * 10 ^ (-(exponent - places)) < 1 / 2 := by
    calc rest * 10 ^ (-(exponent - places))
        ≤ 10 ^ (exponent + Text.digitCount coefficient - 28 - 2) * 10 ^ (-(exponent - places)) :=
          mul_le_mul_of_nonneg_right small (ten_zpow_pos _).le
      _ = 10 ^ (-2 : Int) := by
          rw [← ten_zpow_add]
          congr 1
          omega
      _ < 1 / 2 := by norm_num
  have scaled : ((coefficient : ℚ) * 10 ^ exponent + rest) * 10 ^ (-(exponent - places)) =
      (coefficient * 10 ^ places : Nat) + rest * 10 ^ (-(exponent - places)) := by
    rw [add_mul, mul_assoc, ← ten_zpow_add, show exponent + -(exponent - (places : Int)) = places by omega,
      zpow_natCast]
    push_cast
    rfl
  rw [nearest, last, scaled,
    Binary64.halfEven_add_of_lt_half _ (mul_nonneg nonneg (ten_zpow_pos _).le) fraction]
  push_cast
  rw [mul_assoc, ← zpow_natCast, ← ten_zpow_add,
    show (places : Int) + (exponent - places) = exponent by omega]

/-! ## Operations that round -/

/-- What comes of an exact number that is not negative: the number rounded, or an overflow if that is
beyond the greatest exponent. -/
inductive Rounds (x : ℚ) : Except Signal Decimal → Prop
  | number {y : Decimal} (isAmount : y.isAmount = true) (short : y.digits ≤ precision)
      (small : y.value < 10 ^ (maxAdjusted + 1)) (value_eq : y.value = nearest x) : Rounds x (.ok y)
  | overflow (great : (10 : ℚ) ^ (maxAdjusted + 1) ≤ nearest x) : Rounds x (.error .overflow)

/-- Two numbers that are not negative, the first at most the second. -/
structure Ordered (x y : Decimal) : Prop where
  first : x.isAmount = true
  second : y.isAmount = true
  le : x.value ≤ y.value

theorem Rounds.mono {x y : ℚ} {result : Except Signal Decimal} {greater : Decimal}
    (first : Rounds x result) (second : Rounds y (.ok greater)) (nonneg : 0 ≤ x) (le : x ≤ y) :
    ∃ lesser, result = .ok lesser ∧ Ordered lesser greater ∧
      lesser.digits ≤ precision ∧ greater.digits ≤ precision := by
  have rounded := nearest_mono nonneg le
  obtain @⟨_, isGreater, shortGreater, small, value_eq⟩ := second
  cases first with
  | number isLesser shortLesser _ same =>
      exact ⟨_, rfl, ⟨isLesser, isGreater, by rwa [same, value_eq]⟩, shortLesser, shortGreater⟩
  | overflow great => exact absurd (value_eq ▸ small) (not_lt.mpr (great.trans rounded))

theorem value_of_isAmount {negative : Bool} {coefficient : Nat} (exponent : Int)
    (sign : negative = false ∨ coefficient = 0) :
    value (.finite negative coefficient exponent) = coefficient * 10 ^ exponent := by
  rw [value, signed_of_isAmount sign, Int.cast_natCast]

theorem value_nonneg {x : Decimal} (isAmount : x.isAmount = true) : 0 ≤ x.value := by
  obtain ⟨negative, coefficient, exponent, rfl, sign⟩ := finite_of_isAmount isAmount
  rw [value_of_isAmount exponent sign]
  exact mul_nonneg (Nat.cast_nonneg _) (ten_zpow_pos exponent).le

theorem lt_of_adjusted_le {coefficient : Nat} {exponent : Int} (ne : coefficient ≠ 0)
    (inside : adjusted coefficient exponent ≤ maxAdjusted) :
    (coefficient : ℚ) * 10 ^ exponent < 10 ^ (maxAdjusted + 1) := by
  refine (magnitude_bounds ne exponent).2.trans_le (ten_zpow_le ?_)
  simp only [adjusted] at inside
  omega

/-- What a result brought within the precision and the range is like. -/
theorem fit_eq_ok {negative : Bool} {coefficient : Nat} {exponent : Int} {y : Decimal}
    (fits : fit negative coefficient exponent = .ok y) :
    ∃ coefficient' exponent', y = .finite negative coefficient' exponent' ∧
      Text.digitCount coefficient' ≤ precision ∧ minExponent ≤ exponent' ∧
      (coefficient' : ℚ) * 10 ^ exponent' < 10 ^ (maxAdjusted + 1) := by
  have zero : ∀ power : Int, ((0 : Nat) : ℚ) * 10 ^ power < 10 ^ (maxAdjusted + 1) := fun power => by
    rw [Nat.cast_zero, zero_mul]
    exact ten_zpow_pos _
  unfold fit at fits
  split at fits
  · cases fits
    exact ⟨_, _, rfl, by decide, le_max_left _ _, zero _⟩
  next ne =>
  split at fits
  · cases fits
  next inside =>
  dsimp only at fits
  generalize low : max minExponent (exponent + Text.digitCount coefficient - precision) = lowest at fits
  split at fits
  · next whole =>
    cases fits
    exact ⟨_, _, rfl, by omega, by omega, lt_of_adjusted_le ne (Int.not_lt.mp inside)⟩
  next cut =>
  obtain ⟨places, last⟩ : ∃ places : Nat, lowest = exponent + places :=
    ⟨(lowest - exponent).toNat, by omega⟩
  have most : Rounding.halfEven.drop coefficient places ≤ 10 ^ precision := by
    refine drop_le .halfEven (Nat.lt_of_lt_of_le (Text.lt_pow_digitCount coefficient) ?_)
    exact Nat.pow_le_pow_right (by decide) (by omega)
  rw [show (lowest - exponent).toNat = places by omega] at fits
  generalize Rounding.halfEven.drop coefficient places = kept at fits most
  by_cases carry : kept = tenTo precision
  · simp only [if_pos carry] at fits
    split at fits
    · cases fits
    · next inside' =>
      cases fits
      exact ⟨_, _, rfl, by decide +kernel, by omega,
        lt_of_adjusted_le (by decide +kernel) (Int.not_lt.mp inside')⟩
  · simp only [if_neg carry] at fits
    split at fits
    · cases fits
    · next inside' =>
      cases fits
      refine ⟨_, _, rfl, ?_, by omega, ?_⟩
      · exact (Text.digitCount_le_iff (by decide)).mpr (Nat.lt_of_le_of_ne most carry)
      · rcases Nat.eq_zero_or_pos kept with rfl | pos
        · exact zero _
        · exact lt_of_adjusted_le pos.ne' (Int.not_lt.mp inside')

theorem rounds_fit {negative : Bool} {coefficient : Nat} (exponent : Int)
    (sign : negative = false ∨ coefficient = 0) :
    Rounds (coefficient * 10 ^ exponent) (fit negative coefficient exponent) := by
  rcases fit_nearest negative coefficient exponent with ⟨kept, power, fits, same⟩ | ⟨exceeds, great⟩
  · obtain ⟨kept', power', shape, short, _, small⟩ := fit_eq_ok fits
    cases shape
    have sign' : negative = false ∨ kept = 0 := by
      refine sign.imp_right fun zero => ?_
      rw [zero, Nat.cast_zero, zero_mul, zero_nearest] at same
      exact_mod_cast (mul_eq_zero.mp same).resolve_right (ten_zpow_pos power).ne'
    have value_eq := value_of_isAmount power sign'
    rw [fits]
    refine .number ?_ short (value_eq ▸ small) (value_eq ▸ same)
    simpa [Decimal.isAmount] using sign'
  · rw [exceeds]
    exact .overflow great

theorem rounds_mul {x y : Decimal} (first : x.isAmount = true) (second : y.isAmount = true) :
    Rounds (x.value * y.value) (x.mul y) := by
  obtain ⟨negative₁, coefficient₁, exponent₁, rfl, sign₁⟩ := finite_of_isAmount first
  obtain ⟨negative₂, coefficient₂, exponent₂, rfl, sign₂⟩ := finite_of_isAmount second
  have exact : (coefficient₁ : ℚ) * 10 ^ exponent₁ * (coefficient₂ * 10 ^ exponent₂) =
      (coefficient₁ * coefficient₂ : Nat) * 10 ^ (exponent₁ + exponent₂) := by
    rw [ten_zpow_add]
    push_cast
    ring
  rw [value_of_isAmount exponent₁ sign₁, value_of_isAmount exponent₂ sign₂, exact]
  refine rounds_fit _ ?_
  rcases sign₁ with rfl | rfl
  · rcases sign₂ with rfl | rfl
    · exact .inl rfl
    · exact .inr (Nat.mul_zero _)
  · exact .inr (Nat.zero_mul _)

theorem rounds_hundredth {x : Decimal} (isAmount : x.isAmount = true) :
    Rounds (x.value / 100) x.hundredth := by
  obtain ⟨negative, coefficient, exponent, rfl, sign⟩ := finite_of_isAmount isAmount
  have part : ∀ {places rest : Nat}, coefficient = rest * 10 ^ places →
      Rounds (coefficient * 10 ^ exponent / 100) (fit negative rest (exponent + places - 2)) := by
    rintro places rest rfl
    have same : ((rest * 10 ^ places : Nat) : ℚ) * 10 ^ exponent / 100 =
        rest * 10 ^ (exponent + places - 2) := by
      rw [show exponent + (places : Int) - 2 = exponent + places + -2 by omega, ten_zpow_add,
        ten_zpow_add, zpow_natCast]
      push_cast
      norm_num
      ring
    rw [same]
    refine rounds_fit _ (sign.imp_right fun zero => ?_)
    exact (Nat.mul_eq_zero.mp zero).resolve_right (Nat.pow_pos (by decide)).ne'
  rw [value_of_isAmount exponent sign]
  simp only [hundredth]
  split
  · next zero =>
    have none : (coefficient : ℚ) * 10 ^ exponent / 100 = (0 : Nat) * 10 ^ exponent := by
      rw [zero, Nat.cast_zero, zero_mul, zero_div]
    rw [none]
    exact rounds_fit exponent (.inr rfl)
  split
  · next hundreds =>
    have rounds := @part 2 (coefficient / 100) (by omega)
    rwa [Nat.cast_ofNat, Int.add_sub_cancel] at rounds
  split
  · next tens =>
    have rounds := @part 1 (coefficient / 10) (by omega)
    rwa [show exponent + ((1 : Nat) : Int) - 2 = exponent - 1 by omega] at rounds
  · have rounds := @part 0 coefficient (by omega)
    rwa [show exponent + ((0 : Nat) : Int) - 2 = exponent - 2 by omega] at rounds

/-! ## Sums -/

theorem Rounds.congr {x y : ℚ} {result : Except Signal Decimal} (rounds : Rounds x result)
    (same : nearest x = nearest y) : Rounds y result := by
  cases rounds with
  | number isAmount short small value_eq => exact .number isAmount short small (value_eq.trans same)
  | overflow great => exact .overflow (same ▸ great)

theorem rounds_addZero (zeroExponent : Int) {negative : Bool} {coefficient : Nat} (exponent : Int)
    (sign : negative = false ∨ coefficient = 0) :
    Rounds (coefficient * 10 ^ exponent) (addZero zeroExponent negative coefficient exponent) := by
  unfold addZero
  dsimp only
  split
  · next lower =>
    generalize low : max (max (min exponent zeroExponent)
      (exponent + (Text.digitCount coefficient : Int) - precision - 1))
      (exponent + Text.digitCount coefficient - precision) = room
    have le : room ≤ exponent := by
      simp only [precision] at low lower
      omega
    rw [← shift_eq coefficient le]
    refine rounds_fit room (sign.imp_right fun zero => ?_)
    rw [zero, Nat.zero_mul]
  · exact rounds_fit exponent sign

theorem fit_signed (first second : Nat) (exponent : Int) :
    fit (decide (signed false first + signed false second < 0))
      (signed false first + signed false second).natAbs exponent = fit false (first + second) exponent := by
  have total : signed false first + signed false second = (first + second : Nat) := by simp [signed]
  rw [total, Int.natAbs_natCast, decide_eq_false (Int.not_lt.mpr (Int.natCast_nonneg _))]

/-- The unit that stands for a number too small to matter is rounded away as that number is. -/
theorem rounds_addAligned {coefficient₁ coefficient₂ : Nat} {exponent₁ exponent₂ : Int}
    (ne₁ : coefficient₁ ≠ 0) (ne₂ : coefficient₂ ≠ 0) (ordered : exponent₂ ≤ exponent₁)
    (short : Text.digitCount coefficient₁ ≤ precision)
    (least : minExponent ≤ exponent₁ + Text.digitCount coefficient₁ - precision) :
    Rounds (coefficient₁ * 10 ^ exponent₁ + coefficient₂ * 10 ^ exponent₂)
      (addAligned false coefficient₁ exponent₁ false coefficient₂ exponent₂) := by
  have rounded : ∀ {low : Int} (second : Nat), low ≤ exponent₁ →
      Rounds (coefficient₁ * 10 ^ exponent₁ + second * 10 ^ low)
        (fit false (coefficient₁ * tenTo (exponent₁ - low).toNat + second) low) := by
    intro low second le
    rw [← shift_eq coefficient₁ le, ← add_mul, ← Nat.cast_add]
    exact rounds_fit low (.inl rfl)
  unfold addAligned
  dsimp only
  have floor_eq : exponent₁ + min (-1) ((Text.digitCount coefficient₁ : Int) - precision - 2) =
      exponent₁ + Text.digitCount coefficient₁ - precision - 2 := by omega
  rw [floor_eq]
  by_cases tiny : adjusted coefficient₂ exponent₂ <
      exponent₁ + Text.digitCount coefficient₁ - precision - 2
  · have second : (coefficient₂ : ℚ) * 10 ^ exponent₂ ≤
        10 ^ (exponent₁ + Text.digitCount coefficient₁ - precision - 2) := by
      refine (magnitude_bounds ne₂ exponent₂).2.le.trans (ten_zpow_le ?_)
      simp only [adjusted] at tiny
      omega
    simp only [if_pos tiny, fit_signed]
    refine (rounded 1 (by omega)).congr ?_
    rw [nearest_add_of_le ne₁ short least (mul_nonneg (Nat.cast_nonneg _) (ten_zpow_pos _).le) second,
      Nat.cast_one, one_mul, nearest_add_of_le ne₁ short least (ten_zpow_pos _).le le_rfl]
  · simp only [if_neg tiny, fit_signed]
    exact rounded coefficient₂ ordered

theorem rounds_one_add {x : Decimal} (isAmount : x.isAmount = true) (short : x.digits ≤ precision) :
    Rounds (1 + x.value) ((ofNat 1).add x) := by
  obtain ⟨negative, coefficient, exponent, rfl, sign⟩ := finite_of_isAmount isAmount
  have one : ((1 : Nat) : ℚ) * 10 ^ (0 : Int) = 1 := by norm_num
  rw [value_of_isAmount exponent sign, ← one]
  rcases coefficient with _ | rest
  · rw [Nat.cast_zero, zero_mul, add_zero]
    exact rounds_addZero exponent 0 (.inl rfl)
  · obtain rfl : negative = false := sign.resolve_right (Nat.succ_ne_zero rest)
    simp only [ofNat, add, nan?]
    split
    · next ordered =>
        exact rounds_addAligned (by decide) (Nat.succ_ne_zero rest) ordered (by decide) (by decide)
    · next other =>
      rw [add_comm]
      have count := Text.digitCount_pos (rest + 1)
      refine rounds_addAligned (Nat.succ_ne_zero rest) (by decide) (by omega) short ?_
      simp only [minExponent, precision]
      omega

/-! ## Order -/

theorem Ordered.refl {x : Decimal} (isAmount : x.isAmount = true) : Ordered x x :=
  ⟨isAmount, isAmount, le_rfl⟩

section

variable {x y : Decimal} (ordered : Ordered x y) {greater : Decimal}

include ordered

theorem hundredth_mono (done : y.hundredth = .ok greater) :
    ∃ lesser, x.hundredth = .ok lesser ∧ Ordered lesser greater := by
  have second := rounds_hundredth ordered.second
  rw [done] at second
  obtain ⟨lesser, divided, ordered', _⟩ := (rounds_hundredth ordered.first).mono second
    (div_nonneg (value_nonneg ordered.first) (by norm_num))
    (div_le_div_of_nonneg_right ordered.le (by norm_num))
  exact ⟨lesser, divided, ordered'⟩

theorem mul_mono {x' y' : Decimal} (factors : Ordered x' y') (done : y.mul y' = .ok greater) :
    ∃ lesser, x.mul x' = .ok lesser ∧ Ordered lesser greater ∧
      lesser.digits ≤ precision ∧ greater.digits ≤ precision := by
  have second := rounds_mul ordered.second factors.second
  rw [done] at second
  exact (rounds_mul ordered.first factors.first).mono second
    (mul_nonneg (value_nonneg ordered.first) (value_nonneg factors.first))
    (mul_le_mul ordered.le factors.le (value_nonneg factors.first) (value_nonneg ordered.second))

theorem one_add_mono (shortX : x.digits ≤ precision) (shortY : y.digits ≤ precision)
    (done : (ofNat 1).add y = .ok greater) :
    ∃ lesser, (ofNat 1).add x = .ok lesser ∧ Ordered lesser greater := by
  have second := rounds_one_add ordered.second shortY
  rw [done] at second
  obtain ⟨lesser, added, ordered', _⟩ := (rounds_one_add ordered.first shortX).mono second
    (add_nonneg (by norm_num) (value_nonneg ordered.first)) (add_le_add_right ordered.le 1)
  exact ⟨lesser, added, ordered'⟩

end

/-! ## Two places -/

/-- A number in hundredths, a half going up. -/
def hundredths (x : ℚ) : Nat := ⌊x * 100 + 1 / 2⌋₊

theorem hundredths_mono {x y : ℚ} (le : x ≤ y) : hundredths x ≤ hundredths y :=
  Nat.floor_mono (by linarith)

theorem hundredths_zero : hundredths 0 = 0 := by
  rw [hundredths, Nat.floor_eq_zero]
  norm_num

theorem drop_halfUp (coefficient places : Nat) : Rounding.halfUp.drop coefficient places =
    ⌊(coefficient : ℚ) / 10 ^ places + 1 / 2⌋₊ := by
  have pos : 0 < 10 ^ places := Nat.pow_pos (by decide)
  have half : (coefficient : ℚ) / 10 ^ places + 1 / 2 =
      (2 * coefficient + 10 ^ places : Nat) / (2 * 10 ^ places : Nat) := by
    have unit : (10 : ℚ) ^ places ≠ 0 := pow_ne_zero _ (by norm_num)
    push_cast
    field_simp
  rw [half, Nat.floor_div_eq_div]
  unfold Rounding.drop
  split
  · next short =>
    have less : 10 ^ Text.digitCount coefficient * 10 ≤ 10 ^ places := by
      rw [← Nat.pow_succ]
      exact Nat.pow_le_pow_right (by decide) short
    have count := Text.lt_pow_digitCount coefficient
    rw [Nat.div_eq_of_lt (by omega)]
  · have whole := Nat.div_add_mod' coefficient (10 ^ places)
    have less := Nat.mod_lt coefficient pos
    rw [tenTo_eq]
    generalize 10 ^ places = divisor at whole less
    generalize coefficient / divisor = quotient at whole
    generalize coefficient % divisor = remainder at whole less
    simp only [Rounding.choose]
    symm
    split <;> apply Nat.div_eq_of_lt_le <;> nlinarith

theorem quantize_halfUp (negative : Bool) (coefficient : Nat) (exponent : Int) :
    (hundredths (coefficient * 10 ^ exponent) < 10 ^ precision →
      quantize .halfUp (.finite negative coefficient exponent) (-2) =
        .ok (.finite negative (hundredths (coefficient * 10 ^ exponent)) (-2))) ∧
    (10 ^ precision ≤ hundredths (coefficient * 10 ^ exponent) →
      quantize .halfUp (.finite negative coefficient exponent) (-2) = .error .invalid) := by
  by_cases zero : coefficient = 0
  · have none : hundredths ((coefficient : ℚ) * 10 ^ exponent) = 0 := by
      rw [zero, Nat.cast_zero, zero_mul, hundredths_zero]
    rw [none, zero]
    exact ⟨fun _ => rfl, fun great => absurd great (by decide)⟩
  have scaled : (coefficient : ℚ) * 10 ^ exponent * 100 = coefficient * 10 ^ (exponent + 2) := by
    rw [ten_zpow_add, mul_assoc]
    norm_num
  obtain ⟨low, _⟩ := magnitude_bounds zero (exponent + 2)
  simp only [quantize, if_neg zero, sub_neg_eq_add]
  by_cases long : (precision : Int) < Text.digitCount coefficient + (exponent + 2)
  · have great : 10 ^ precision ≤ hundredths (coefficient * 10 ^ exponent) := by
      refine Nat.le_floor ?_
      rw [scaled]
      push_cast
      calc (10 : ℚ) ^ precision = 10 ^ (precision : Int) := (zpow_natCast _ _).symm
        _ ≤ 10 ^ (exponent + 2 + Text.digitCount coefficient - 1) := ten_zpow_le (by omega)
        _ ≤ coefficient * 10 ^ (exponent + 2) := low
        _ ≤ coefficient * 10 ^ (exponent + 2) + 1 / 2 := le_add_of_nonneg_right (by norm_num)
    rw [if_pos long]
    exact ⟨fun small => absurd small (Nat.not_lt.mpr great), fun _ => rfl⟩
  rw [if_neg long]
  by_cases whole : -2 ≤ exponent
  · obtain ⟨k, same⟩ := Int.eq_ofNat_of_zero_le (show 0 ≤ exponent + 2 by omega)
    have exact : hundredths (coefficient * 10 ^ exponent) = coefficient * 10 ^ k := by
      rw [hundredths, scaled, same, zpow_natCast, Nat.floor_eq_iff (by positivity)]
      push_cast
      constructor <;> linarith
    have short : coefficient * 10 ^ k < 10 ^ precision := mul_pow_lt (by omega)
    rw [if_pos whole, exact, same, Int.toNat_natCast, tenTo_eq]
    exact ⟨fun _ => rfl, fun great => absurd short (Nat.not_lt.mpr great)⟩
  · obtain ⟨places, same⟩ := Int.eq_ofNat_of_zero_le (show 0 ≤ -2 - exponent by omega)
    have exact : hundredths (coefficient * 10 ^ exponent) = Rounding.halfUp.drop coefficient places := by
      rw [drop_halfUp, hundredths, scaled, show exponent + 2 = -(places : Int) by omega, zpow_neg,
        zpow_natCast, ← div_eq_mul_inv]
    rw [if_neg whole, exact, same, Int.toNat_natCast]
    constructor
    · intro small
      exact if_neg (Nat.not_lt.mpr ((Text.digitCount_le_iff (by decide)).mpr small))
    · intro great
      refine if_pos (Nat.not_le.mp fun few => ?_)
      exact absurd ((Text.digitCount_le_iff (by decide)).mp few) (Nat.not_lt.mpr great)

end Decimal

end ChainFlow

import ChainFlow.Proofs.Decimal.Cents
import ChainFlow.Decimal.Numeral

/-!
# Exact sums

A sum that starts from nothing and to which only numbers with two places are added is nothing at first
and a number of hundredths after that (`IsTotal`), never a zero below zero. Below 10 to the 28th
hundredths it is exact, it is written as it is, and its text is that of the number of hundredths.
-/

namespace ChainFlow.Decimal

/-- What a sum of some hundredths is: the number that sums start from, or a number with two places. -/
inductive IsTotal : Int → Decimal → Prop
  | nothing : IsTotal 0 (.ofNat 0)
  | cents (total : Int) : IsTotal total (.ofCents total)

theorem addZero_cost (zeroExponent : Int) (low : -2 ≤ zeroExponent) (negative : Bool) {coefficient : Nat}
    (ne : coefficient ≠ 0) (small : coefficient < 10 ^ 28) :
    addZero zeroExponent negative coefficient (-2) = .ok (ofCents (signed negative coefficient)) := by
  have sum := @addZero_of_lt zeroExponent negative coefficient 0 low (.inr rfl) ne (by omega)
  rwa [Nat.pow_zero, Nat.mul_one, ← ofCents_signed negative ne] at sum

/-- A sum with one more number is exact as long as it stays short. -/
theorem add_of_isTotal {total : Int} {sum : Decimal} (isTotal : IsTotal total sum) (negative : Bool)
    {coefficient : Nat} (small : total.natAbs + coefficient < 10 ^ 28) :
    sum.add (.finite negative coefficient (-2)) = .ok (ofCents (total + signed negative coefficient)) := by
  have nothing : signed negative 0 = 0 := by cases negative <;> rfl
  cases isTotal with
  | nothing =>
      rw [Int.zero_add]
      rcases coefficient with _ | rest
      · rw [nothing]
        rfl
      · exact addZero_cost 0 (by decide) negative (Nat.succ_ne_zero rest) (by omega)
  | cents total =>
      rcases size : total.natAbs with _ | rest₁
      · obtain rfl := Int.natAbs_eq_zero.mp size
        rw [Int.zero_add]
        rcases coefficient with _ | rest
        · rw [nothing]
          rfl
        · exact addZero_cost (-2) (by decide) negative (Nat.succ_ne_zero rest) (by omega)
      · have own : signed (decide (total < 0)) (rest₁ + 1) = total := by rw [← size, signed_natAbs]
        rw [ofCents, size]
        rcases coefficient with _ | rest₂
        · have sum := @addZero_cost (-2) (by decide) (decide (total < 0)) (rest₁ + 1)
            (Nat.succ_ne_zero rest₁) (by omega)
          rw [own] at sum
          rw [nothing, Int.add_zero]
          exact sum
        · have sum := @addAligned_of_lt (decide (total < 0)) negative (rest₁ + 1) (rest₂ + 1) 0
            (Nat.succ_ne_zero rest₁) (by omega)
          rw [Nat.pow_zero, Nat.mul_one, own] at sum
          exact sum

/-- A sum that is short enough is written as it is. -/
theorem quantize_of_isTotal (rounding : Rounding) {total : Int} {sum : Decimal}
    (isTotal : IsTotal total sum) (small : total.natAbs < 10 ^ 28) :
    quantize rounding sum (-2) = .ok (ofCents total) := by
  cases isTotal with
  | nothing => rfl
  | cents total =>
      unfold ofCents quantize
      dsimp only
      split
      · next zero => rw [zero]
      · have few := (Text.digitCount_le_iff (by decide)).mpr small
        rw [if_neg (by simp only [precision]; omega)]
        simp

/-! ## Texts -/

/-- A number of hundredths as an amount with two places. -/
def centsText (total : Int) : String :=
  String.ofList ((if total < 0 then ['-'] else []) ++ (Text.digits (total.natAbs / 100) ++
    ['.', Nat.digitChar (total.natAbs / 10 % 10), Nat.digitChar (total.natAbs % 10)]))

theorem digits_of_ge {n : Nat} (long : 10 ≤ n) :
    Text.digits n = Text.digits (n / 10) ++ [Nat.digitChar (n % 10)] :=
  Nat.toDigits_of_base_le (by decide) long

theorem digits_of_lt {n : Nat} (short : n < 10) : Text.digits n = [Nat.digitChar n] :=
  Nat.toDigits_of_lt_base short

theorem pointed_append {whole fraction : List Char} (digits : whole ≠ []) (places : fraction ≠ []) :
    pointed (whole ++ fraction) whole.length = whole ++ '.' :: fraction := by
  have some := List.length_pos_iff.mpr digits
  have more := List.length_pos_iff.mpr places
  have longer : ¬(whole ++ fraction).length ≤ (whole.length : Int).toNat := by
    rw [List.length_append]
    omega
  rw [pointed, if_neg (by omega), if_neg longer, Int.toNat_natCast, List.take_left, List.drop_left]

theorem magnitudeText_cents (n : Nat) : magnitudeText n (-2) =
    Text.digits (n / 100) ++ ['.', Nat.digitChar (n / 10 % 10), Nat.digitChar (n % 10)] := by
  have pos : 0 < (Text.digits n).length := Text.digitCount_pos n
  unfold magnitudeText
  rw [if_pos ⟨by decide, by omega⟩]
  -- Fewer digits than three are filled up with zeros.
  by_cases short : n < 10
  · rw [digits_of_lt short, Nat.div_eq_of_lt (by omega : n < 100), Nat.div_eq_of_lt short,
      Nat.mod_eq_of_lt short]
    rfl
  · rw [digits_of_ge (by omega)]
    by_cases few : n < 100
    · rw [digits_of_lt (by omega : n / 10 < 10), Nat.div_eq_of_lt few,
        Nat.mod_eq_of_lt (by omega : n / 10 < 10)]
      rfl
    · rw [digits_of_ge (by omega : 10 ≤ n / 10), show n / 10 / 10 = n / 100 by omega, List.append_assoc]
      have whole := Text.digits_ne_nil (n / 100)
      rw [← pointed_append whole (List.cons_ne_nil _ _)]
      congr 1
      simp only [List.length_append, List.length_cons, List.length_nil]
      omega

theorem toText_ofCents (total : Int) : (ofCents total).toText = centsText total := by
  simp only [ofCents, toText, render, magnitudeText_cents, centsText, decide_eq_true_eq]

end ChainFlow.Decimal

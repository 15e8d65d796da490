import ChainFlow.Power
import ChainFlow.Text.Digit
import Mathlib.Algebra.Group.Nat.Defs

/-!
# Digits of numbers

The digits of a number name it, and there are as many as its size asks for.
-/

namespace ChainFlow

@[simp] theorem tenTo_eq (exponent : Nat) : tenTo exponent = 10 ^ exponent := rfl

namespace Text

theorem isDigit_of_mem_digits {n : Nat} {c : Char} (member : c ∈ digits n) : c.isDigit = true :=
  Nat.isDigit_of_mem_toDigits (by decide) (by decide) member

theorem digits_ne_nil (n : Nat) : digits n ≠ [] :=
  List.ne_nil_of_length_pos Nat.length_toDigits_pos

theorem digitCount_pos (n : Nat) : 0 < digitCount n := Nat.length_toDigits_pos

theorem digitCount_le_iff {n k : Nat} (pos : 0 < k) : digitCount n ≤ k ↔ n < 10 ^ k :=
  Nat.length_toDigits_le_iff (by decide) pos

theorem lt_pow_digitCount (n : Nat) : n < 10 ^ digitCount n :=
  (digitCount_le_iff (digitCount_pos n)).mp (Nat.le_refl _)

theorem pow_digitCount_le {n : Nat} (ne : n ≠ 0) : 10 ^ (digitCount n - 1) ≤ n := by
  have pos := digitCount_pos n
  by_cases one : digitCount n = 1
  · rw [one]
    exact Nat.pos_of_ne_zero ne
  · apply Nat.le_of_not_lt
    intro small
    have fewer := (digitCount_le_iff (by omega)).mpr small
    omega

theorem asciiDigit?_of_isDigit {c : Char} (digit : c.isDigit = true) :
    asciiDigit? c = some (c.toNat - '0'.toNat) := by
  simp only [Char.isDigit, Bool.and_eq_true, decide_eq_true_eq] at digit
  simp only [asciiDigit?, Char.le_def]
  exact if_pos digit

theorem natOfDigits_eq {text : List Char} (all : ∀ c ∈ text, c.isDigit = true) :
    natOfDigits text = Nat.ofDigitChars 10 text 0 := by
  have from_ : ∀ value, text.foldl (fun value c => 10 * value + (asciiDigit? c).getD 0) value =
      text.foldl (fun value c => 10 * value + (c.toNat - '0'.toNat)) value := by
    induction text with
    | nil => exact fun _ => rfl
    | cons c text ih =>
        rw [List.forall_mem_cons] at all
        intro value
        simp only [List.foldl_cons, asciiDigit?_of_isDigit all.1, Option.getD_some]
        exact ih all.2 _
  rw [Nat.ofDigitChars_eq_foldl]
  exact from_ 0

theorem natOfDigits_digits (n : Nat) : natOfDigits (digits n) = n := by
  rw [natOfDigits_eq fun c => isDigit_of_mem_digits]
  exact Nat.ofDigitChars_ten_toDigits

theorem natOfDigits_zeros (count : Nat) (text : List Char) :
    natOfDigits (List.replicate count '0' ++ text) = natOfDigits text := by
  induction count with
  | zero => rfl
  | succ count ih => exact ih

end Text

end ChainFlow

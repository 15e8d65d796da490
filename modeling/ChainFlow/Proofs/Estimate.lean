import ChainFlow.Estimate
import ChainFlow.Proofs.Decimal.Below
import ChainFlow.Proofs.Decimal.Written
import ChainFlow.Proofs.Json.Number

/-!
# Estimates that cannot fail

A number from zero up to one has a shortest text that reads as a decimal number below one. So the
random part of a cost can always be added to a base and be written (`spreadCost_of_isFraction`).
-/

namespace ChainFlow

namespace Decimal

open Json (IsLayout IsWhole pointText markText)

/-! ## Decimal numbers of texts -/

theorem exponent?_markText (mark : Option Int) : exponent? (markText mark) = some (mark.getD 0) := by
  cases mark with
  | none => rfl
  | some power =>
      let zeros := List.replicate (2 - (Text.digits power.natAbs).length) '0'
      have all : ∀ c ∈ zeros ++ Text.digits power.natAbs, c.isDigit = true := by
        intro c member
        rcases List.mem_append.mp member with zero | written
        · rw [List.eq_of_mem_replicate zero]
          rfl
        · exact Text.isDigit_of_mem_digits written
      have value : Text.natOfDigits (zeros ++ Text.digits power.natAbs) = power.natAbs := by
        rw [Text.natOfDigits_zeros, Text.natOfDigits_digits]
      have some_ : (zeros ++ Text.digits power.natAbs).isEmpty = false := by
        simp [Text.digits_ne_nil]
      have digits := takeDigits_all all
      simp only [markText, Binary64.exponentText, Option.getD_some]
      by_cases negative : power < 0
      · simp only [if_pos negative, exponent?, takeSign]
        rw [digits, some_, value]
        simp only [Bool.false_or, List.isEmpty_nil, Bool.not_true, Bool.false_eq_true, reduceIte,
          signed]
        congr 1
        omega
      · simp only [if_neg negative, exponent?, takeSign]
        rw [digits, some_, value]
        simp only [Bool.false_or, List.isEmpty_nil, Bool.not_true, Bool.false_eq_true, reduceIte,
          signed]
        congr 1
        omega

theorem head_markText (mark : Option Int) :
    ∀ c ∈ (markText mark).head?, c.isDigit = false ∧ c ≠ '.' := by
  cases mark <;> simp [markText, Binary64.exponentText]

/-- A character that may stand in the text of a number without a sign. -/
theorem isPlain_of_layout {text : List Char} {coefficient : Nat} {power : Int}
    {whole fraction : List Char} {mark : Option Int}
    (layout : IsLayout text coefficient power whole fraction mark) :
    ∀ c ∈ text, IsPlain c ∧ c.toLower = c := by
  have ofDigit : ∀ c : Char, c.isDigit = true → IsPlain c ∧ c.toLower = c := fun c digit =>
    ⟨isPlain_of_isDigit digit, toLower_of_isDigit digit⟩
  have ofMark : ∀ c ∈ ['.', 'e', '-', '+'], IsPlain c ∧ c.toLower = c := by
    simp only [List.forall_mem_cons, List.not_mem_nil, false_imp_iff, implies_true, and_true]
    refine ⟨?_, ?_, ?_, ?_⟩ <;>
      exact ⟨⟨by decide, by decide, by decide, by decide⟩, by decide⟩
  intro c member
  rw [layout.text_eq, List.mem_append, List.mem_append] at member
  rcases member with (isWhole | isPoint) | isMark
  · exact ofDigit c (layout.starts.all c isWhole)
  · unfold pointText at isPoint
    split at isPoint
    · cases isPoint
    · rcases List.mem_cons.mp isPoint with rfl | isFraction
      · exact ofMark _ (by simp)
      · exact ofDigit c (layout.all c isFraction)
  · cases mark with
    | none => cases isMark
    | some power =>
        simp only [markText, Binary64.exponentText, List.mem_cons, List.mem_append] at isMark
        rcases isMark with rfl | sign | zero | written
        · exact ofMark _ (by simp)
        · refine ofMark c ?_
          rw [sign]
          split <;> simp
        · rw [List.eq_of_mem_replicate zero]
          exact ofDigit _ rfl
        · exact ofDigit c (Text.isDigit_of_mem_digits written)

theorem parse_signed_layout (negative : Bool) {text : List Char} {coefficient : Nat} {power : Int}
    {whole fraction : List Char} {mark : Option Int}
    (layout : IsLayout text coefficient power whole fraction mark) :
    parse ((if negative then ['-'] else []) ++ text) =
      bounded negative (Text.natOfDigits (whole ++ fraction)) (mark.getD 0 - fraction.length) := by
  have plain := isPlain_of_layout layout
  have head : ∀ c ∈ text.head?, c ≠ '-' ∧ c ≠ '+' := by
    obtain ⟨first, tail, rfl, digit⟩ := layout.starts.starts_digit
    rw [layout.text_eq]
    rintro c ⟨⟩
    constructor <;> rintro rfl <;> cases digit
  have lower : text.map Char.toLower = text :=
    (List.map_congr_left fun c member => (plain c member).2).trans (List.map_id _)
  have tail : pointText fraction ++ markText mark = '.' :: (fraction ++ markText mark) ∨
      pointText fraction ++ markText mark = markText mark ∧ fraction = [] := by
    unfold pointText
    cases fraction with
    | nil => exact .inr ⟨rfl, rfl⟩
    | cons c fraction => exact .inl rfl
  rw [parse_signed negative (fun c member => (plain c member).1) head, lower, layout.text_eq,
    List.append_assoc]
  exact unsigned_parts negative layout.starts.nonempty layout.starts.all layout.all tail
    (head_markText mark) (exponent?_markText mark)

theorem digits_end_of_lt {coefficient : Nat} {exponent power : Int} (ne : coefficient ≠ 0)
    (small : (coefficient : ℚ) * 10 ^ exponent < 10 ^ power) :
    exponent + Text.digitCount coefficient ≤ power := by
  have low := (Binary64.decimal_bounds ne).1
  have scaled : (10 : ℚ) ^ ((Text.digitCount coefficient : Int) - 1 + exponent) < 10 ^ power := by
    rw [zpow_add₀ (by norm_num)]
    have pos : (0 : ℚ) < 10 ^ exponent := zpow_pos (by norm_num) exponent
    exact lt_of_le_of_lt (mul_le_mul_of_nonneg_right low pos.le) small
  have less := (zpow_lt_zpow_iff_right₀ (by norm_num)).mp scaled
  omega

/-- The text of a finite number reads as the numeral that the number was written as. -/
theorem parse_text {negative : Bool} {mantissa : Nat} {exponent : Int}
    (canonical : (Binary64.finite negative mantissa exponent).IsCanonical) :
    ∃ coefficient power, parse (Binary64.finite negative mantissa exponent).text =
        .ok (.finite negative coefficient power) ∧ -1092 ≤ power ∧
      (coefficient : ℚ) * 10 ^ power =
        (Binary64.shortest mantissa exponent).1 * 10 ^ (Binary64.shortest mantissa exponent).2 := by
  obtain ⟨whole, fraction, mark, layout⟩ := Json.magnitudeText_layout canonical.positive
  have small := Binary64.shortest_lt canonical.positive
  have least : -1092 ≤ (Binary64.shortest mantissa exponent).2 := by
    refine Binary64.le_shortest ?_
    cases canonical with
    | zero => exact le_rfl
    | finite _ _ _ least _ _ => exact least
  have places := layout.places
  have value := layout.value_eq
  refine ⟨Text.natOfDigits (whole ++ fraction), mark.getD 0 - fraction.length, ?_, by omega, value⟩
  show parse ((if negative then ['-'] else []) ++ Binary64.magnitudeText mantissa exponent) = _
  rw [parse_signed_layout negative layout]
  rw [← value] at small
  generalize Text.natOfDigits (whole ++ fraction) = coefficient at small value
  generalize mark.getD 0 - (fraction.length : Int) = power at small places value
  refine if_pos ⟨?_, by simp only [leastExponent]; omega⟩
  by_cases zero : coefficient = 0
  · -- Then the shortest numeral is zero too, and has no power of ten.
    have none : (Binary64.shortest mantissa exponent).1 = 0 := by
      rw [zero, Nat.cast_zero, zero_mul] at value
      exact_mod_cast (mul_eq_zero.mp value.symm).resolve_right (zpow_ne_zero _ (by norm_num))
    have unscaled := Binary64.shortest_of_zero canonical.positive none
    rw [if_pos zero]
    simp only [greatestExponent]
    omega
  · have ends := digits_end_of_lt zero small
    rw [if_neg zero]
    simp only [adjusted, greatestExponent]
    omega

end Decimal

namespace Engine

open Decimal (IsBelow)

/-- The decimal number of a number from zero up to one. -/
theorem decimalOf_of_isFraction {number : Binary64} (fraction : number.IsFraction) :
    ∃ value, decimalOf number = .ok value ∧ IsBelow 0 value := by
  obtain ⟨mantissa, exponent, rfl, below⟩ := fraction.below
  have small := Binary64.shortest_lt_one fraction.canonical below
  obtain ⟨coefficient, power, reads, _, same⟩ := Decimal.parse_text fraction.canonical
  rw [← same, ← zpow_zero (10 : ℚ)] at small
  refine ⟨.finite false coefficient power, reads, ?_⟩
  by_cases zero : coefficient = 0
  · rw [zero]
    exact .zero _ _
  · exact .digits _ (Decimal.digits_end_of_lt zero small)

theorem spreadCost_of_isFraction {base : Decimal} {number : Binary64} (small : IsBelow 20 base)
    (fraction : number.IsFraction) : ∃ text, spreadCost base number = .ok text := by
  obtain ⟨value, isValue, below⟩ := decimalOf_of_isFraction fraction
  obtain ⟨half, isHalf, halfBelow⟩ := Decimal.isBelow_half (by decide) (by decide) below
  obtain ⟨sum, isSum, sumBelow⟩ :=
    Decimal.isBelow_add (by decide) (by decide) small (halfBelow.mono (by decide))
  obtain ⟨text, written⟩ := Decimal.formatCost_of_isBelow (sumBelow.mono (by decide))
  refine ⟨text, ?_⟩
  unfold spreadCost spread
  rw [isValue]
  change (do Amount.formatCost (← base.add (← value.mul (.finite false 5 (-1))))) = _
  rw [isHalf]
  change (do Amount.formatCost (← base.add half)) = _
  rw [isSum]
  exact written

end Engine

end ChainFlow

import ChainFlow.Binary64.Rounded
import ChainFlow.Json.Printer
import ChainFlow.Json.Token
import ChainFlow.Proofs.Binary64.Shortest

/-!
# Numbers in JSON texts

A whole number and a floating-point number are cut off a text as they were written, where something
follows that does not go on with a number.
-/

namespace ChainFlow

namespace Text

theorem natOfDigits_append (first second : List Char) :
    natOfDigits (first ++ second) = natOfDigits first * 10 ^ second.length + natOfDigits second := by
  have from_ : ∀ (text : List Char) (value : Nat),
      text.foldl (fun value c => 10 * value + (asciiDigit? c).getD 0) value =
        value * 10 ^ text.length + natOfDigits text := by
    intro text
    induction text with
    | nil => simp [natOfDigits]
    | cons c text ih =>
        intro value
        have own := ih ((asciiDigit? c).getD 0)
        simp only [natOfDigits, List.foldl_cons, Nat.mul_zero, Nat.zero_add, List.length_cons] at own ⊢
        rw [ih, own, Nat.pow_succ]
        simp only [natOfDigits]
        ring
  simp only [natOfDigits, List.foldl_append]
  exact from_ second _

theorem natOfDigits_replicate (count : Nat) : natOfDigits (List.replicate count '0') = 0 := by
  have zeros := natOfDigits_zeros count []
  rw [List.append_nil] at zeros
  rw [zeros]
  rfl

theorem natOfDigits_lt {text : List Char} (all : ∀ c ∈ text, c.isDigit = true) :
    natOfDigits text < 10 ^ text.length := by
  induction text with
  | nil => simp [natOfDigits]
  | cons c text ih =>
      rw [List.forall_mem_cons] at all
      have head : natOfDigits [c] ≤ 9 := by
        have digit := asciiDigit?_of_isDigit all.1
        have bound := all.1
        simp only [Char.isDigit, Bool.and_eq_true, decide_eq_true_eq, UInt32.le_iff_toNat_le] at bound
        simp only [natOfDigits, List.foldl_cons, List.foldl_nil, digit, Option.getD_some]
        have high : c.toNat ≤ 57 := bound.2
        have zero : '0'.toNat = 48 := rfl
        omega
      have split := natOfDigits_append [c] text
      have rest := ih all.2
      rw [List.singleton_append] at split
      rw [split, List.length_cons, Nat.pow_succ]
      nlinarith

theorem digitCount_natOfDigits_le {text : List Char} (all : ∀ c ∈ text, c.isDigit = true)
    (nonempty : text ≠ []) : digitCount (natOfDigits text) ≤ text.length :=
  (digitCount_le_iff (List.length_pos_iff.mpr nonempty)).mpr (natOfDigits_lt all)

theorem head?_digits {n : Nat} (ne : n ≠ 0) : (digits n).head? ≠ some '0' := by
  intro head
  obtain ⟨rest, written⟩ := List.head?_eq_some_iff.mp head
  have value := natOfDigits_digits n
  have low := pow_digitCount_le ne
  have all : ∀ c ∈ rest, c.isDigit = true := fun c member =>
    isDigit_of_mem_digits (by rw [written]; exact List.mem_cons_of_mem _ member)
  have zero := natOfDigits_zeros 1 rest
  rw [digitCount, written, List.length_cons, Nat.add_sub_cancel] at low
  rw [written] at value
  have high := natOfDigits_lt all
  simp only [List.replicate_one, List.singleton_append] at zero
  omega

end Text

namespace Json

open Text

/-- Whether what follows a number is the end, a comma or a new line. -/
def Ends : List Char → Prop
  | [] => True
  | c :: _ => c = ',' ∨ c = '\n'

theorem Ends.head {rest : List Char} (ends : Ends rest) :
    ∀ c ∈ rest.head?, c.isDigit = false ∧ c ≠ '.' ∧ c ≠ 'e' ∧ c ≠ 'E' := by
  cases rest with
  | nil => simp
  | cons c rest =>
      rcases ends with rfl | rfl <;> simp

theorem takeWhile_append_stop {run rest : List Char} (all : ∀ c ∈ run, c.isDigit = true)
    (stops : ∀ c ∈ rest.head?, c.isDigit = false) :
    (run ++ rest).takeWhile Char.isDigit = run := by
  rw [List.takeWhile_append_of_pos all]
  cases rest with
  | nil => simp
  | cons c rest => simp [stops c rfl]

/-- A run of digits that the whole part of a number may be. -/
structure IsWhole (run : List Char) : Prop where
  all : ∀ c ∈ run, c.isDigit = true
  nonempty : run ≠ []
  starts : run = ['0'] ∨ run.head? ≠ some '0'

theorem IsWhole.starts_digit {run : List Char} (whole : IsWhole run) :
    ∃ c tail, run = c :: tail ∧ c.isDigit = true := by
  obtain ⟨c, tail, rfl⟩ := List.exists_cons_of_ne_nil whole.nonempty
  exact ⟨c, tail, rfl, whole.all c List.mem_cons_self⟩

theorem isWhole_digits (n : Nat) : IsWhole (digits n) := by
  refine ⟨fun c => isDigit_of_mem_digits, digits_ne_nil n, ?_⟩
  by_cases none : n = 0
  · exact .inl (by rw [none]; rfl)
  · exact .inr (head?_digits none)

theorem wholeDigits_append {run rest : List Char} (whole : IsWhole run)
    (stops : ∀ c ∈ rest.head?, c.isDigit = false) : wholeDigits (run ++ rest) = run := by
  rcases whole.starts with rfl | other
  · rfl
  · obtain ⟨c, tail, rfl⟩ := List.exists_cons_of_ne_nil whole.nonempty
    have first : c ≠ '0' := by simpa using other
    unfold wholeDigits
    split
    · next same => exact absurd (List.cons.inj same).1 first
    · exact takeWhile_append_stop whole.all stops

/-! ## Whole numbers -/

theorem fractionDigits_of_ends {rest : List Char} (noPoint : ∀ c ∈ rest.head?, c ≠ '.') :
    fractionDigits rest = [] := by
  unfold fractionDigits
  split
  · next same => exact absurd rfl (noPoint '.' rfl)
  · rfl

theorem exponentPart_of_ends {rest : List Char} (ends : Ends rest) : exponentPart rest = none := by
  cases rest with
  | nil => rfl
  | cons c rest =>
      have head := ends.head c rfl
      exact if_neg (by simp [head])

theorem unsignedNumber_whole (place : Nat) (negative : Bool) {run rest : List Char}
    (whole : IsWhole run) (ends : Ends rest) (short : run.length ≤ digitLimit) :
    unsignedNumber place negative (run ++ rest) =
      some (.scalar (.int (if negative then -(natOfDigits run : Int) else natOfDigits run)),
        run.length) := by
  have own := wholeDigits_append whole fun c member => (ends.head c member).1
  have noFraction := fractionDigits_of_ends fun c member => (ends.head c member).2.1
  unfold unsignedNumber
  simp only [own, List.drop_left, noFraction, List.isEmpty_nil, reduceIte, Nat.add_zero,
    exponentPart_of_ends ends, List.isEmpty_eq_false_iff.mpr whole.nonempty]
  simp [Nat.not_lt.mpr short]

theorem find?_constants_of_isDigit {c : Char} (digit : c.isDigit = true) (rest : List Char) :
    constants.find? (fun constant => constant.1.isPrefixOf (c :: rest)) = none := by
  have other : c ≠ 'n' ∧ c ≠ 't' ∧ c ≠ 'f' ∧ c ≠ 'N' ∧ c ≠ 'I' ∧ c ≠ '-' := by
    refine ⟨?_, ?_, ?_, ?_, ?_, ?_⟩ <;>
      · rintro rfl
        cases digit
  simp [constants, List.isPrefixOf, other.1.symm, other.2.1.symm, other.2.2.1.symm,
    other.2.2.2.1.symm, other.2.2.2.2.1.symm, other.2.2.2.2.2.symm]

theorem find?_constants_of_minus {c : Char} (digit : c.isDigit = true) (rest : List Char) :
    constants.find? (fun constant => constant.1.isPrefixOf ('-' :: c :: rest)) = none := by
  have other : c ≠ 'I' := by
    rintro rfl
    cases digit
  simp [constants, List.isPrefixOf, other.symm]

theorem wordToken_signed {place : Nat} {negative : Bool} {text rest : List Char} {value : Token}
    (starts : ∃ c tail, text = c :: tail ∧ c.isDigit = true)
    (magnitude : unsignedNumber place negative (text ++ rest) = some (value, text.length)) :
    wordToken place ((if negative then ['-'] else []) ++ text ++ rest) =
      (value, ((if negative then ['-'] else []) ++ text).length) := by
  obtain ⟨c, tail, rfl, digit⟩ := starts
  have minus : c ≠ '-' := by
    rintro rfl
    cases digit
  unfold wordToken
  cases negative with
  | true =>
      simp only [reduceIte, List.nil_append, List.cons_append] at magnitude ⊢
      rw [find?_constants_of_minus digit]
      simp [magnitude]
  | false =>
      simp only [Bool.false_eq_true, reduceIte, List.nil_append, List.cons_append] at magnitude ⊢
      rw [find?_constants_of_isDigit digit]
      dsimp only
      split
      · next same => exact absurd (List.cons.inj same).1 minus
      · rw [magnitude]
        rfl

theorem token_of_word {place : Nat} {c : Char} {rest : List Char}
    (word : c ∉ ['[', ']', '{', '}', ',', ':', '"']) :
    token place (c :: rest) = wordToken place (c :: rest) := by
  simp only [List.mem_cons, List.not_mem_nil, or_false, not_or] at word
  unfold token
  split <;> first | rfl | simp_all

theorem token_signed {place : Nat} {negative : Bool} {text rest : List Char} {value : Token}
    (starts : ∃ c tail, text = c :: tail ∧ c.isDigit = true)
    (magnitude : unsignedNumber place negative (text ++ rest) = some (value, text.length)) :
    token place ((if negative then ['-'] else []) ++ text ++ rest) =
      (value, ((if negative then ['-'] else []) ++ text).length) := by
  rw [← wordToken_signed starts magnitude]
  obtain ⟨c, tail, rfl, digit⟩ := starts
  cases negative with
  | true => exact token_of_word (by decide)
  | false =>
      refine token_of_word ?_
      simp only [List.mem_cons, List.not_mem_nil, or_false, not_or]
      refine ⟨?_, ?_, ?_, ?_, ?_, ?_, ?_⟩ <;>
        · rintro rfl
          cases digit

theorem token_integer (place : Nat) {value : Int} {rest : List Char} (ends : Ends rest)
    (short : digitCount value.natAbs ≤ digitLimit) :
    token place (integer value ++ rest) = (.scalar (.int value), (integer value).length) := by
  have magnitude := unsignedNumber_whole place (decide (value < 0)) (isWhole_digits value.natAbs) ends
    short
  have signed := token_signed (isWhole_digits value.natAbs).starts_digit magnitude
  rw [natOfDigits_digits] at signed
  unfold integer
  by_cases negative : value < 0
  · simp only [negative, decide_true, reduceIte, List.singleton_append] at signed ⊢
    rw [signed]
    congr 3
    omega
  · simp only [negative, decide_false, Bool.false_eq_true, reduceIte, List.nil_append] at signed ⊢
    rw [signed]
    congr 3
    omega

/-! ## Floating-point numbers -/

/-- The digits after the point with their point, nothing if there are none. -/
def pointText (fraction : List Char) : List Char :=
  if fraction.isEmpty then [] else '.' :: fraction

def markText : Option Int → List Char
  | none => []
  | some power => Binary64.exponentText power

theorem exponentPart_exponentText (power : Int) {rest : List Char} (ends : Ends rest) :
    exponentPart (Binary64.exponentText power ++ rest) =
      some (power, (Binary64.exponentText power).length) := by
  have stops : ∀ c ∈ rest.head?, c.isDigit = false := fun c member => (ends.head c member).1
  let zeros := List.replicate (2 - (digits power.natAbs).length) '0'
  have all : ∀ c ∈ zeros ++ digits power.natAbs, c.isDigit = true := by
    intro c member
    rcases List.mem_append.mp member with zero | written
    · rw [List.eq_of_mem_replicate zero]
      rfl
    · exact isDigit_of_mem_digits written
  have run := takeWhile_append_stop all stops
  have value : natOfDigits (zeros ++ digits power.natAbs) = power.natAbs := by
    rw [natOfDigits_zeros, natOfDigits_digits]
  have some_ : (zeros ++ digits power.natAbs).isEmpty = false := by
    simp [digits_ne_nil]
  unfold Binary64.exponentText exponentPart
  by_cases negative : power < 0
  · simp only [negative, reduceIte, List.cons_append, true_or]
    rw [run, some_, value]
    simp only [Bool.false_eq_true, reduceIte, List.length_cons, zeros]
    congr 2 <;> omega
  · simp only [negative, reduceIte, List.cons_append, true_or]
    rw [run, some_, value]
    simp only [Bool.false_eq_true, reduceIte, List.length_cons, zeros]
    congr 2 <;> omega

theorem exponentPart_markText (mark : Option Int) {rest : List Char} (ends : Ends rest) :
    exponentPart (markText mark ++ rest) =
      mark.map fun power => (power, (Binary64.exponentText power).length) := by
  cases mark with
  | none => exact exponentPart_of_ends ends
  | some power => exact exponentPart_exponentText power ends

theorem head_markText (mark : Option Int) {rest : List Char} (ends : Ends rest) :
    ∀ c ∈ (markText mark ++ rest).head?, c.isDigit = false ∧ c ≠ '.' := by
  cases mark with
  | none => exact fun c member => ⟨(ends.head c member).1, (ends.head c member).2.1⟩
  | some power => simp [markText, Binary64.exponentText]

theorem fractionDigits_pointText {fraction rest : List Char}
    (all : ∀ c ∈ fraction, c.isDigit = true)
    (stops : ∀ c ∈ rest.head?, c.isDigit = false ∧ c ≠ '.') :
    fractionDigits (pointText fraction ++ rest) = fraction := by
  unfold pointText
  by_cases none : fraction.isEmpty = true
  · rw [if_pos none, List.isEmpty_iff.mp none]
    exact fractionDigits_of_ends fun c member => (stops c member).2
  · rw [if_neg none]
    exact takeWhile_append_stop all fun c member => (stops c member).1

theorem length_pointText (fraction : List Char) :
    (pointText fraction).length = if fraction.isEmpty then 0 else fraction.length + 1 := by
  unfold pointText
  split <;> rfl

theorem unsignedNumber_float (place : Nat) (negative : Bool) {whole fraction : List Char}
    {mark : Option Int} {rest : List Char} (starts : IsWhole whole)
    (all : ∀ c ∈ fraction, c.isDigit = true) (ends : Ends rest)
    (marked : fraction.isEmpty = false ∨ mark.isSome = true) :
    unsignedNumber place negative (whole ++ pointText fraction ++ markText mark ++ rest) =
      some (.scalar (.float (Binary64.ofDecimal negative (natOfDigits (whole ++ fraction))
          (mark.getD 0 - fraction.length))),
        (whole ++ pointText fraction ++ markText mark).length) := by
  have after := head_markText mark ends
  have stops : ∀ c ∈ (pointText fraction ++ (markText mark ++ rest)).head?, c.isDigit = false := by
    unfold pointText
    split
    · exact fun c member => (after c member).1
    · simp
  have own := wholeDigits_append starts stops
  have digits := fractionDigits_pointText all after
  have drop : (whole ++ (pointText fraction ++ (markText mark ++ rest))).drop
      (whole.length + if fraction.isEmpty then 0 else fraction.length + 1) =
        markText mark ++ rest := by
    rw [← length_pointText, ← List.drop_drop, List.drop_left, List.drop_left]
  have isFloat : (fraction.isEmpty && (exponentPart (markText mark ++ rest)).isNone) = false := by
    rw [exponentPart_markText mark ends]
    rcases marked with points | marks
    · rw [points, Bool.false_and]
    · obtain ⟨power, rfl⟩ := Option.isSome_iff_exists.mp marks
      simp
  unfold unsignedNumber
  simp only [List.append_assoc]
  rw [own]
  simp only [List.isEmpty_eq_false_iff.mpr starts.nonempty, Bool.false_eq_true, reduceIte,
    List.drop_left, digits, drop]
  rw [isFloat, exponentPart_markText mark ends]
  cases mark <;>
    simp [markText, length_pointText, Nat.add_assoc]

theorem isWhole_take {n count : Nat} (pos : 0 < count) (ne : n ≠ 0 ∨ count = 1) :
    IsWhole ((digits n).take count) := by
  obtain ⟨count, rfl⟩ := Nat.exists_eq_succ_of_ne_zero pos.ne'
  have all : ∀ c ∈ (digits n).take (count + 1), c.isDigit = true := fun c member =>
    isDigit_of_mem_digits (List.mem_of_mem_take member)
  have nonempty : (digits n).take (count + 1) ≠ [] := by simp [digits_ne_nil]
  refine ⟨all, nonempty, ?_⟩
  by_cases none : n = 0
  · rcases ne with other | one
    · exact absurd none other
    · rw [one, none]
      exact .inl rfl
  · right
    rw [List.head?_take, if_neg (Nat.succ_ne_zero count)]
    exact head?_digits none

/-- What a numeral is that is laid out as a whole part, a fraction and an exponent, the last two of
them not both missing. -/
structure IsLayout (text : List Char) (coefficient : Nat) (power : Int) (whole fraction : List Char)
    (mark : Option Int) : Prop where
  text_eq : text = whole ++ pointText fraction ++ markText mark
  starts : IsWhole whole
  all : ∀ c ∈ fraction, c.isDigit = true
  marked : fraction.isEmpty = false ∨ mark.isSome = true
  places : mark.getD 0 - fraction.length = power ∨
    0 ≤ power ∧ mark.getD 0 - fraction.length = -1
  value_eq : (natOfDigits (whole ++ fraction) : ℚ) * 10 ^ (mark.getD 0 - fraction.length) =
    coefficient * 10 ^ power

theorem isLayout_small (coefficient : Nat) {power : Int}
    (small : ((digits coefficient).length : Int) + power ≤ 0) :
    ∃ fraction, IsLayout (Binary64.pointed (digits coefficient)
      ((digits coefficient).length + power)) coefficient power ['0'] fraction none := by
  let zeros := List.replicate (-((digits coefficient).length + power)).toNat '0'
  have places : (none : Option Int).getD 0 - ((zeros ++ digits coefficient).length : Int) = power := by
    simp only [Option.getD_none, List.length_append, List.length_replicate, zeros]
    omega
  refine ⟨zeros ++ digits coefficient, ?_, isWhole_digits 0, ?_, ?_, .inl places, ?_⟩
  · simp [Binary64.pointed, small, pointText, markText, digits_ne_nil, zeros]
  · intro c member
    rcases List.mem_append.mp member with zero | written
    · rw [List.eq_of_mem_replicate zero]
      rfl
    · exact isDigit_of_mem_digits written
  · simp [digits_ne_nil]
  · have zeroed : ['0'] ++ (zeros ++ digits coefficient) =
        List.replicate (zeros.length + 1) '0' ++ digits coefficient := by
      simp [zeros, List.replicate_succ]
    rw [zeroed, natOfDigits_zeros, natOfDigits_digits, places]

theorem isLayout_large {coefficient : Nat} {power : Int} (large : 0 ≤ power)
    (zero : coefficient = 0 → power = 0) :
    ∃ whole, IsLayout (Binary64.pointed (digits coefficient)
      ((digits coefficient).length + power)) coefficient power whole ['0'] none := by
  obtain ⟨count, rfl⟩ := Int.eq_ofNat_of_zero_le large
  have pos : 0 < (digits coefficient).length := List.length_pos_iff.mpr (digits_ne_nil coefficient)
  refine ⟨digits coefficient ++ List.replicate count '0', ?_, ?_, ?_, .inl rfl, .inr ⟨large, rfl⟩, ?_⟩
  · have positive : ¬(((digits coefficient).length : Int) + count ≤ 0) := by omega
    have fits : (digits coefficient).length ≤ (((digits coefficient).length : Int) + count).toNat := by
      omega
    have rest : (((digits coefficient).length : Int) + count).toNat - (digits coefficient).length =
        count := by omega
    simp [Binary64.pointed, positive, fits, rest, pointText, markText]
  · by_cases none : coefficient = 0
    · have noZeros : count = 0 := by exact_mod_cast zero none
      rw [none, noZeros]
      exact isWhole_digits 0
    · refine ⟨?_, by simp [digits_ne_nil], .inr ?_⟩
      · intro c member
        rcases List.mem_append.mp member with written | zeros
        · exact isDigit_of_mem_digits written
        · rw [List.eq_of_mem_replicate zeros]
          rfl
      · rw [List.head?_append_of_ne_nil _ (digits_ne_nil coefficient)]
        exact head?_digits none
  · simp
  · have joined : digits coefficient ++ List.replicate count '0' ++ ['0'] =
        digits coefficient ++ List.replicate (count + 1) '0' := by
      rw [List.append_assoc, ← List.replicate_succ']
    rw [joined, natOfDigits_append, natOfDigits_digits, natOfDigits_replicate]
    push_cast
    simp only [List.length_replicate, Option.getD_none, List.length_singleton, Nat.cast_one]
    rw [show (0 : Int) - 1 = -1 by rfl, zpow_neg_one, zpow_natCast, pow_succ]
    ring

theorem isLayout_split {coefficient : Nat} {power : Int}
    (positive : 0 < ((digits coefficient).length : Int) + power) (small : power < 0) :
    ∃ whole fraction, IsLayout (Binary64.pointed (digits coefficient)
      ((digits coefficient).length + power)) coefficient power whole fraction none := by
  obtain ⟨count, place⟩ := Int.eq_ofNat_of_zero_le positive.le
  have ne : coefficient ≠ 0 := by
    rintro rfl
    have single : (digits 0).length = 1 := rfl
    omega
  have places : (none : Option Int).getD 0 - (((digits coefficient).drop count).length : Int) =
      power := by
    simp only [Option.getD_none, List.length_drop]
    omega
  refine ⟨(digits coefficient).take count, (digits coefficient).drop count, ?_,
    isWhole_take (by omega) (.inl ne), ?_, ?_, .inl places, ?_⟩
  · have isPositive : ¬((digits coefficient).length + power ≤ 0) := by omega
    have inside : ¬((digits coefficient).length ≤ count) := by omega
    have rest : ((digits coefficient).drop count).isEmpty = false := by
      simp only [List.isEmpty_eq_false_iff, ne_eq, List.drop_eq_nil_iff]
      omega
    unfold Binary64.pointed pointText
    rw [if_neg isPositive, place, Int.toNat_natCast, if_neg inside, rest]
    simp [markText]
  · exact fun c member => isDigit_of_mem_digits (List.mem_of_mem_drop member)
  · left
    simp only [List.isEmpty_eq_false_iff, ne_eq, List.drop_eq_nil_iff]
    omega
  · rw [List.take_append_drop, natOfDigits_digits, places]

theorem isLayout_exponential (coefficient : Nat) (power : Int) :
    ∃ whole fraction mark, IsLayout (Binary64.exponential (digits coefficient)
      ((digits coefficient).length + power - 1)) coefficient power whole fraction mark := by
  have pos : 0 < (digits coefficient).length := List.length_pos_iff.mpr (digits_ne_nil coefficient)
  have places : (some ((digits coefficient).length + power - 1)).getD 0 -
      (((digits coefficient).drop 1).length : Int) = power := by
    simp only [Option.getD_some, List.length_drop]
    omega
  refine ⟨(digits coefficient).take 1, (digits coefficient).drop 1,
    some ((digits coefficient).length + power - 1), ?_, isWhole_take Nat.one_pos (.inr rfl), ?_,
    .inr rfl, .inl places, ?_⟩
  · have single : ((digits coefficient).drop 1).isEmpty ↔ (digits coefficient).length ≤ 1 := by
      rw [List.isEmpty_iff, List.drop_eq_nil_iff]
    unfold Binary64.exponential pointText
    rw [if_congr single rfl rfl]
    simp [markText, Binary64.exponentText]
  · exact fun c member => isDigit_of_mem_digits (List.mem_of_mem_drop member)
  · rw [List.take_append_drop, natOfDigits_digits, places]

theorem magnitudeText_layout {mantissa : Nat} {exponent : Int}
    (canonical : (Binary64.finite false mantissa exponent).IsCanonical) :
    ∃ whole fraction mark, IsLayout (Binary64.magnitudeText mantissa exponent)
      (Binary64.shortest mantissa exponent).1 (Binary64.shortest mantissa exponent).2
      whole fraction mark := by
  -- Zero has no power of ten: zeros after it would not be the whole part of a number.
  have zero := Binary64.shortest_of_zero canonical
  unfold Binary64.magnitudeText
  generalize Binary64.shortest mantissa exponent = numeral at zero ⊢
  obtain ⟨coefficient, power⟩ := numeral
  dsimp only at zero ⊢
  split
  · rcases lt_or_ge 0 (((digits coefficient).length : Int) + power) with positive | small
    · rcases lt_or_ge power 0 with fraction | whole
      · obtain ⟨whole, fraction, layout⟩ := isLayout_split positive fraction
        exact ⟨whole, fraction, none, layout⟩
      · obtain ⟨run, layout⟩ := isLayout_large whole zero
        exact ⟨run, ['0'], none, layout⟩
    · obtain ⟨fraction, layout⟩ := isLayout_small coefficient small
      exact ⟨['0'], fraction, none, layout⟩
  · exact isLayout_exponential coefficient power

theorem magnitudeText_starts {negative : Bool} {mantissa : Nat} {exponent : Int}
    (canonical : (Binary64.finite negative mantissa exponent).IsCanonical) :
    ∃ c tail, Binary64.magnitudeText mantissa exponent = c :: tail ∧ c.isDigit = true := by
  obtain ⟨whole, fraction, mark, layout⟩ := magnitudeText_layout canonical.positive
  obtain ⟨c, tail, rfl, digit⟩ := layout.starts.starts_digit
  exact ⟨c, tail ++ pointText fraction ++ markText mark, by rw [layout.text_eq]; simp, digit⟩

theorem token_float (place : Nat) {value : Binary64} (canonical : value.IsCanonical)
    {rest : List Char} (ends : Ends rest) :
    token place (floatText value ++ rest) = (.scalar (.float value), (floatText value).length) := by
  cases value with
  | nan => rfl
  | infinite negative => cases negative <;> rfl
  | finite negative mantissa exponent =>
      obtain ⟨whole, fraction, mark, layout⟩ := magnitudeText_layout canonical.positive
      have number := unsignedNumber_float place negative layout.starts layout.all ends layout.marked
      rw [← layout.text_eq, Binary64.ofDecimal_eq, layout.value_eq, ← Binary64.ofDecimal_eq,
        Binary64.ofDecimal_shortest canonical] at number
      exact token_signed (magnitudeText_starts canonical) number

end Json

end ChainFlow

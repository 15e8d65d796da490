import ChainFlow.Decimal.Numeral
import ChainFlow.Proofs.Text.Digit

/-!
# Numerals that read back

`parse` reads what `render` writes for a number without an exponent of its own in the numeral, and
for a quiet not-a-number.
-/

namespace ChainFlow

namespace Text

theorem dropWhile_of_none {inSet : Char → Bool} {text : List Char}
    (none : ∀ c ∈ text, inSet c = false) : text.dropWhile inSet = text := by
  cases text with
  | nil => rfl
  | cons c text => simp [none c List.mem_cons_self]

theorem trimBlank_of_none {text : List Char} (none : ∀ c ∈ text, isBlank c = false) :
    trimBlank text = text := by
  unfold trimBlank trimBy
  rw [dropWhile_of_none none, dropWhile_of_none (by simpa using none), List.reverse_reverse]

end Text

namespace Decimal

/-! ## Characters -/

structure IsPlain (c : Char) : Prop where
  pos : 0 < c.toNat
  ascii : c.toNat < 0x80
  joined : c ≠ '_'
  dark : Text.isBlank c = false

theorem toNat_of_isDigit {c : Char} (digit : c.isDigit = true) : 48 ≤ c.toNat ∧ c.toNat ≤ 57 := by
  simpa [Char.isDigit, UInt32.le_iff_toNat_le] using digit

theorem isPlain_of_isDigit {c : Char} (digit : c.isDigit = true) : IsPlain c := by
  obtain ⟨low, high⟩ := toNat_of_isDigit digit
  refine ⟨by omega, by omega, ?_, ?_⟩
  · rintro rfl
    cases digit
  · simp [Text.isBlank, Text.isWhiteSpace]
    omega

theorem toLower_of_isDigit {c : Char} (digit : c.isDigit = true) : c.toLower = c := by
  obtain ⟨low, high⟩ := toNat_of_isDigit digit
  apply dif_neg
  rintro ⟨upper, _⟩
  have above : 65 ≤ c.toNat := upper
  omega

theorem plain?_of_isPlain {text : List Char} (plain : ∀ c ∈ text, IsPlain c) :
    plain? text = some text := by
  have each : ∀ c ∈ text, plainChar? c = some c := by
    intro c member
    obtain ⟨pos, ascii, _, _⟩ := plain c member
    simp only [plainChar?, if_neg (Nat.ne_of_gt pos), if_pos ascii]
  unfold plain?
  rw [Text.trimBlank_of_none fun c member => (plain c member).dark,
    List.filter_eq_self.mpr fun c member => by simpa using (plain c member).joined]
  clear plain
  induction text with
  | nil => rfl
  | cons c text ih =>
      rw [List.forall_mem_cons] at each
      simp [each.1, ih each.2]

/-- A numeral that begins with a sign or with a character that is none. -/
theorem parse_signed {text : List Char} (negative : Bool) (plain : ∀ c ∈ text, IsPlain c)
    (head : ∀ c ∈ text.head?, c ≠ '-' ∧ c ≠ '+') :
    parse ((if negative then ['-'] else []) ++ text) =
      unsigned negative (text.map Char.toLower) := by
  unfold parse
  rw [plain?_of_isPlain]
  · cases negative with
    | true => rfl
    | false =>
        cases text with
        | nil => rfl
        | cons c text =>
            obtain ⟨notMinus, notPlus⟩ := head c rfl
            simp [takeSign, notMinus, notPlus]
  · intro c member
    rcases List.mem_append.mp member with isSign | rest
    · cases negative with
      | true =>
          rw [List.mem_singleton.mp isSign]
          exact ⟨by decide, by decide, by decide, by decide⟩
      | false => cases isSign
    · exact plain c rest

/-! ## Digits -/

theorem takeDigits_append {whole rest : List Char} (all : ∀ c ∈ whole, c.isDigit = true)
    (stop : ∀ c ∈ rest.head?, c.isDigit = false) : takeDigits (whole ++ rest) = (whole, rest) := by
  unfold takeDigits
  rw [List.takeWhile_append_of_pos all, List.dropWhile_append_of_pos all]
  cases rest with
  | nil => simp
  | cons c rest => simp [stop c rfl]

theorem takeDigits_all {text : List Char} (all : ∀ c ∈ text, c.isDigit = true) :
    takeDigits text = (text, []) := by
  have taken : takeDigits (text ++ []) = (text, []) := takeDigits_append all (by simp)
  rwa [List.append_nil] at taken

/-- A numeral of digits, with a point and an exponent at most. -/
theorem unsigned_parts {whole tail fraction rest : List Char} {power : Int} (negative : Bool)
    (nonempty : whole ≠ []) (wholeDigits : ∀ c ∈ whole, c.isDigit = true)
    (fractionDigits : ∀ c ∈ fraction, c.isDigit = true)
    (tail_eq : tail = '.' :: (fraction ++ rest) ∨ tail = rest ∧ fraction = [])
    (stops : ∀ c ∈ rest.head?, c.isDigit = false ∧ c ≠ '.') (marked : exponent? rest = some power) :
    unsigned negative (whole ++ tail) =
      bounded negative (Text.natOfDigits (whole ++ fraction)) (power - fraction.length) := by
  cases whole with
  | nil => exact absurd rfl nonempty
  | cons c whole =>
      have digit := wholeDigits c List.mem_cons_self
      have apart : c ≠ 'i' ∧ c ≠ 'n' ∧ c ≠ 's' := by
        refine ⟨?_, ?_, ?_⟩ <;> rintro rfl <;> cases digit
      have stop : ∀ c ∈ tail.head?, c.isDigit = false := by
        rcases tail_eq with rfl | ⟨rfl, _⟩
        · simp
        · exact fun c member => (stops c member).1
      have after := takeDigits_append fractionDigits fun c member => (stops c member).1
      unfold unsigned
      rw [if_neg (by simp [apart.1])]
      split
      · rename_i same
        exact absurd (List.cons.inj same).1 apart.2.1
      · rename_i same
        exact absurd (List.cons.inj same).1 apart.2.2
      · rw [takeDigits_append wholeDigits stop]
        rcases tail_eq with rfl | ⟨rfl, rfl⟩
        · simp [after, marked]
        · cases tail with
          | nil => simp [marked]
          | cons c tail =>
              have noPoint := (stops c rfl).2
              simp [marked, noPoint]

theorem unsigned_digits {whole tail fraction : List Char} (negative : Bool) (nonempty : whole ≠ [])
    (wholeDigits : ∀ c ∈ whole, c.isDigit = true) (fractionDigits : ∀ c ∈ fraction, c.isDigit = true)
    (tail_eq : tail = '.' :: fraction ∨ tail = [] ∧ fraction = []) :
    unsigned negative (whole ++ tail) =
      bounded negative (Text.natOfDigits (whole ++ fraction)) (0 - fraction.length) := by
  have stops : ∀ c ∈ ([] : List Char).head?, c.isDigit = false ∧ c ≠ '.' := by simp
  refine unsigned_parts negative nonempty wholeDigits fractionDigits ?_ stops rfl
  rwa [List.append_nil]

/-! ## Numbers -/

theorem bounded_eq (negative : Bool) (coefficient : Nat) (exponent : Int) :
    bounded negative coefficient exponent = .ok (.finite negative coefficient exponent) ∨
      bounded negative coefficient exponent = .error .invalid := by
  unfold bounded
  dsimp only
  generalize (if coefficient = 0 then exponent else adjusted coefficient exponent) = top
  split
  · exact .inl rfl
  · exact .inr rfl

structure Pointed (digits : List Char) (text whole tail fraction : List Char) : Prop where
  text_eq : text = whole ++ tail
  tail_eq : tail = '.' :: fraction ∨ tail = [] ∧ fraction = []
  nonempty : whole ≠ []
  wholeDigits : ∀ c ∈ whole, c.isDigit = true
  fractionDigits : ∀ c ∈ fraction, c.isDigit = true
  value : Text.natOfDigits (whole ++ fraction) = Text.natOfDigits digits

theorem pointed_parts {digits : List Char} {exponent : Int} (all : ∀ c ∈ digits, c.isDigit = true)
    (nonempty : digits ≠ []) (small : exponent ≤ 0) :
    ∃ whole tail fraction,
      Pointed digits (pointed digits (exponent + digits.length)) whole tail fraction ∧
        (fraction.length : Int) = -exponent := by
  have pos : 0 < digits.length := List.length_pos_iff.mpr nonempty
  unfold pointed
  split
  · rename_i short
    refine ⟨['0'], _, List.replicate (-(exponent + digits.length)).toNat '0' ++ digits,
      ⟨rfl, .inl rfl, by simp, by simp, ?_, ?_⟩, ?_⟩
    · intro c member
      rcases List.mem_append.mp member with isZero | isDigit
      · rw [List.eq_of_mem_replicate isZero]
        rfl
      · exact all c isDigit
    · rw [← List.append_assoc]
      exact Text.natOfDigits_zeros (_ + 1) digits
    · simp only [List.length_append, List.length_replicate]
      omega
  · rename_i long
    split
    · refine ⟨digits, [], [], ⟨by simp, .inr ⟨rfl, rfl⟩, nonempty, all, by simp, by simp⟩, ?_⟩
      simp only [List.length_nil]
      omega
    · rename_i cut
      refine ⟨_, _, digits.drop (exponent + digits.length).toNat, ⟨rfl, .inl rfl, ?_,
        fun c member => all c (List.mem_of_mem_take member),
        fun c member => all c (List.mem_of_mem_drop member), by rw [List.take_append_drop]⟩, ?_⟩
      · intro none
        have length := congrArg List.length none
        rw [List.length_take, List.length_nil] at length
        omega
      · rw [List.length_drop]
        omega

/-- A number without an exponent in its numeral, which has no more than a few zeros after the
point. -/
theorem parse_finite {negative : Bool} {coefficient : Nat} {exponent : Int} (small : exponent ≤ 0)
    (near : -6 < exponent + Text.digitCount coefficient) (least : leastExponent ≤ exponent)
    (most : adjusted coefficient exponent ≤ greatestExponent) :
    parse (render (.finite negative coefficient exponent)) =
      .ok (.finite negative coefficient exponent) := by
  have all : ∀ c ∈ Text.digits coefficient, c.isDigit = true := fun c => Text.isDigit_of_mem_digits
  obtain ⟨whole, tail, fraction, parts, places⟩ :=
    pointed_parts all (Text.digits_ne_nil coefficient) small
  have plain : ∀ c ∈ whole ++ tail, IsPlain c ∧ c.toLower = c := by
    have ofDigit : ∀ c : Char, c.isDigit = true → IsPlain c ∧ c.toLower = c := fun c digit =>
      ⟨isPlain_of_isDigit digit, toLower_of_isDigit digit⟩
    intro c member
    rcases List.mem_append.mp member with isWhole | isTail
    · exact ofDigit c (parts.wholeDigits c isWhole)
    · rcases parts.tail_eq with rfl | ⟨rfl, _⟩
      · rcases List.mem_cons.mp isTail with rfl | isFraction
        · exact ⟨⟨by decide, by decide, by decide, by decide⟩, by decide⟩
        · exact ofDigit c (parts.fractionDigits c isFraction)
      · cases isTail
  have head : ∀ c ∈ (whole ++ tail).head?, c ≠ '-' ∧ c ≠ '+' := by
    cases whole with
    | nil => exact absurd rfl parts.nonempty
    | cons c whole =>
        rintro c ⟨⟩
        have digit := parts.wholeDigits c List.mem_cons_self
        constructor <;> rintro rfl <;> cases digit
  have lower : (whole ++ tail).map Char.toLower = whole ++ tail :=
    (List.map_congr_left fun c member => (plain c member).2).trans (List.map_id _)
  have unpowered : exponent ≤ 0 ∧ -6 < exponent + ((Text.digits coefficient).length : Int) :=
    ⟨small, near⟩
  simp only [render, magnitudeText, if_pos unpowered]
  rw [parts.text_eq, parse_signed negative (fun c member => (plain c member).1) head, lower,
    unsigned_digits negative parts.nonempty parts.wholeDigits parts.fractionDigits parts.tail_eq,
    parts.value, Text.natOfDigits_digits, places, Int.sub_neg, Int.zero_add]
  unfold bounded
  apply if_pos
  refine ⟨?_, least⟩
  split
  · exact Int.le_trans small (by decide)
  · exact most

theorem parse_quiet (negative : Bool) (payload : Nat) :
    parse (render (.nan negative false payload)) = .ok (.nan negative false payload) := by
  have digits : ∀ c ∈ if payload = 0 then [] else Text.digits payload, c.isDigit = true := by
    intro c member
    split at member
    · cases member
    · exact Text.isDigit_of_mem_digits member
  have value : Text.natOfDigits (if payload = 0 then [] else Text.digits payload) = payload := by
    split
    · rename_i none
      rw [none]
      rfl
    · exact Text.natOfDigits_digits payload
  simp only [render]
  generalize (if payload = 0 then [] else Text.digits payload) = text at digits value ⊢
  have plain : ∀ c ∈ "NaN".toList ++ text, IsPlain c := by
    intro c member
    rcases List.mem_append.mp member with isWord | isDigit
    · have known : c = 'N' ∨ c = 'a' ∨ c = 'N' := by simpa using isWord
      rcases known with rfl | rfl | rfl <;> exact ⟨by decide, by decide, by decide, by decide⟩
    · exact isPlain_of_isDigit (digits c isDigit)
  have lower : text.map Char.toLower = text :=
    (List.map_congr_left fun c member => toLower_of_isDigit (digits c member)).trans (List.map_id _)
  have word : unsigned negative ('n' :: 'a' :: 'n' :: text) = .ok (.nan negative false payload) := by
    unfold unsigned
    rw [if_neg (by simp)]
    simp only [List.all_eq_true.mpr digits, reduceIte, value]
  simp only [Bool.false_eq_true, reduceIte, List.append_nil, List.append_assoc]
  rw [parse_signed negative plain (by simp), List.map_append, lower]
  exact word

end Decimal

end ChainFlow

import ChainFlow.Json.Printer
import ChainFlow.Json.Token
import Mathlib.Data.List.Chain

/-!
# Strings in JSON texts

A text that is written with escapes reads back, unless it holds the two halves of a pair side by
side: these would be read as the character that they make up.
-/

namespace ChainFlow

namespace Text

/-- Whether no first half of a pair stands right before a second half. -/
def IsJoined (text : List Char) : Prop :=
  text.IsChain fun first second =>
    (isHighSurrogate (codePoint first) && isLowSurrogate (codePoint second)) = false

instance (text : List Char) : Decidable (IsJoined text) :=
  inferInstanceAs (Decidable (List.IsChain _ _))

/-! ## Code units -/

theorem isHighSurrogate_iff (unit : Nat) :
    isHighSurrogate unit = true ↔ 0xD800 ≤ unit ∧ unit < 0xDC00 := by
  simp [isHighSurrogate]

theorem isLowSurrogate_iff (unit : Nat) :
    isLowSurrogate unit = true ↔ 0xDC00 ≤ unit ∧ unit < 0xE000 := by
  simp [isLowSurrogate]

theorem toNat_bounds (c : Char) : c.toNat < 0xD800 ∨ 0xDFFF < c.toNat ∧ c.toNat < 0x110000 := c.valid

theorem unit?_eq_some {c : Char} {unit : Nat} (half : unit? c = some unit) :
    (0xD800 ≤ unit ∧ unit < 0xE000) ∧ c.toNat = standInOffset + unit := by
  unfold unit? at half
  generalize standInOffset = offset at half ⊢
  split at half
  · next inside =>
      cases half
      rw [Bool.and_eq_true, decide_eq_true_iff, decide_eq_true_iff] at inside
      omega
  · cases half

theorem ofUnit_codePoint (c : Char) : ofUnit (codePoint c) = c := by
  unfold codePoint ofUnit
  cases half : unit? c with
  | some unit =>
      obtain ⟨inside, sum⟩ := unit?_eq_some half
      have isHalf : (isHighSurrogate unit || isLowSurrogate unit) = true := by
        rw [Bool.or_eq_true, isHighSurrogate_iff, isLowSurrogate_iff]
        omega
      rw [Option.getD_some, if_pos isHalf, ← sum, Char.ofNat_toNat]
  | none =>
      have whole : ¬(isHighSurrogate c.toNat || isLowSurrogate c.toNat) = true := by
        have bounds := toNat_bounds c
        rw [Bool.or_eq_true, isHighSurrogate_iff, isLowSurrogate_iff]
        omega
      rw [Option.getD_none, if_neg whole, Char.ofNat_toNat]

theorem isJoined_of_hasLone {text : String} (whole : hasLone text = false) :
    IsJoined text.toList := by
  have plain : ∀ c ∈ text.toList, isHighSurrogate (codePoint c) = false := by
    intro c member
    rw [hasLone, List.any_eq_false] at whole
    have none : unit? c = none := by simpa [isLone] using whole c member
    have bounds := toNat_bounds c
    rw [codePoint, none, Option.getD_none, Bool.eq_false_iff, ne_eq, isHighSurrogate_iff]
    omega
  refine List.Pairwise.isChain (List.pairwise_of_forall_mem_list fun first member second _ => ?_)
  rw [plain first member, Bool.false_and]

theorem ofPair_halves {c : Char} (high : 0x10000 ≤ c.toNat) :
    ofPair (0xD800 + (c.toNat - 0x10000) / 0x400) (0xDC00 + (c.toNat - 0x10000) % 0x400) = c := by
  have sum : 0x10000 + (0xD800 + (c.toNat - 0x10000) / 0x400 - 0xD800) * 0x400 +
      (0xDC00 + (c.toNat - 0x10000) % 0x400 - 0xDC00) = c.toNat := by omega
  rw [ofPair, sum, Char.ofNat_toNat]

theorem codePoint_of_le {c : Char} (high : 0x10000 ≤ codePoint c) : codePoint c = c.toNat := by
  unfold codePoint at high ⊢
  cases half : unit? c with
  | some unit =>
      have inside := (unit?_eq_some half).1
      rw [half, Option.getD_some] at high
      omega
  | none => rfl

/-! ## Hexadecimal digits -/

theorem hex_one {n : Nat} (small : n < 16) : hex 1 n = [Nat.digitChar n] := by
  rw [hex, Nat.toDigits_of_lt_base small]
  rfl

theorem hex_succ (width n : Nat) :
    hex (width + 2) n = hex (width + 1) (n / 16) ++ [Nat.digitChar (n % 16)] := by
  unfold hex
  by_cases small : n < 16
  · have none : n / 16 = 0 := Nat.div_eq_of_lt small
    rw [Nat.toDigits_of_lt_base small, none, Nat.toDigits_zero, Nat.mod_eq_of_lt small]
    simp [List.replicate_succ']
  · rw [Nat.toDigits_of_base_le (by omega) (Nat.le_of_not_lt small)]
    simp

end Text

namespace Json

open Text

theorem hexValue?_digitChar {n : Nat} (small : n < 16) : hexValue? (Nat.digitChar n) = some n := by
  have all : ∀ n : Fin 16, hexValue? (Nat.digitChar n) = some n.val := by decide
  exact all ⟨n, small⟩

theorem hexQuad?_hex {n : Nat} (small : n < 0x10000) (rest : List Char) :
    hexQuad? (hex 4 n ++ rest) = some n := by
  rw [hex_succ 2, hex_succ 1, hex_succ 0, hex_one (by omega)]
  simp only [List.cons_append, List.nil_append, hexQuad?]
  rw [hexValue?_digitChar (by omega), hexValue?_digitChar (by omega), hexValue?_digitChar (by omega),
    hexValue?_digitChar (by omega)]
  simp only [Option.bind_eq_bind, Option.bind_some, Option.some.injEq]
  omega

theorem length_hex {n : Nat} (small : n < 0x10000) : (hex 4 n).length = 4 := by
  rw [hex_succ 2, hex_succ 1, hex_succ 0, hex_one (by omega)]
  rfl

/-! ## Pieces -/

/-- Whether a text does not go on with an escape of a second half. -/
def Parts (text : List Char) : Prop :=
  ∀ second, text = '\\' :: 'u' :: second → ∃ unit, hexQuad? second = some unit ∧
    isLowSurrogate unit = false

theorem unicodePiece_unit (place : Nat) {unit : Nat} (small : unit < 0x10000) {tail : List Char}
    (nonempty : tail ≠ []) (parts : isHighSurrogate unit = true → Parts tail) :
    unicodePiece place (hex 4 unit ++ tail) = .char (ofUnit unit) 6 := by
  have long : ¬(hex 4 unit ++ tail).length < 5 := by
    have pos := List.length_pos_iff.mpr nonempty
    rw [List.length_append, length_hex small]
    omega
  have dropped : (hex 4 unit ++ tail).drop 4 = tail := List.drop_left' (length_hex small)
  unfold unicodePiece
  rw [if_neg long, hexQuad?_hex small, dropped]
  dsimp only
  split
  · next second =>
      split
      · next high =>
          simp only [Bool.and_eq_true] at high
          obtain ⟨low, quad, other⟩ := parts high.1 second rfl
          simp [quad, other]
      · rfl
  · rfl

theorem unicodePiece_pair (place : Nat) {high low : Nat} (isHigh : isHighSurrogate high = true)
    (isLow : isLowSurrogate low = true) {tail : List Char} (nonempty : tail ≠ []) :
    unicodePiece place (hex 4 high ++ '\\' :: 'u' :: (hex 4 low ++ tail)) =
      .char (ofPair high low) 12 := by
  have smallHigh : high < 0x10000 := by
    rw [isHighSurrogate_iff] at isHigh
    omega
  have smallLow : low < 0x10000 := by
    rw [isLowSurrogate_iff] at isLow
    omega
  have pos := List.length_pos_iff.mpr nonempty
  have long : ¬(hex 4 high ++ '\\' :: 'u' :: (hex 4 low ++ tail)).length < 5 := by
    simp only [List.length_append, List.length_cons, length_hex smallHigh, length_hex smallLow]
    omega
  have remains : 4 < (hex 4 low ++ tail).length := by
    rw [List.length_append, length_hex smallLow]
    omega
  have dropped : (hex 4 high ++ '\\' :: 'u' :: (hex 4 low ++ tail)).drop 4 =
      '\\' :: 'u' :: (hex 4 low ++ tail) := List.drop_left' (length_hex smallHigh)
  unfold unicodePiece
  rw [if_neg long, hexQuad?_hex smallHigh, dropped]
  simp only [isHigh, remains, decide_true, Bool.and_true, reduceIte, hexQuad?_hex smallLow, isLow]

/-- How a character is written: by a letter, as it is, or by the number of its one code unit or its
two. -/
inductive IsWritten (c : Char) : List Char → Prop
  | letter {letter : Char} (named : escaped? letter = some c) (other : letter ≠ 'u') :
      IsWritten c ['\\', letter]
  | plain (quote : c ≠ '"') (backslash : c ≠ '\\') (visible : ¬c.toNat < 0x20) : IsWritten c [c]
  | unit (first : codePoint c < 0x10000) : IsWritten c (unitEscape (codePoint c))
  | pair {high low : Nat} (isHigh : isHighSurrogate high = true) (isLow : isLowSurrogate low = true)
      (whole : ofPair high low = c) : IsWritten c (unitEscape high ++ unitEscape low)

theorem isWritten_pair {c : Char} (beyond : 0x10000 ≤ codePoint c) :
    IsWritten c (unitEscape (0xD800 + (c.toNat - 0x10000) / 0x400) ++
      unitEscape (0xDC00 + (c.toNat - 0x10000) % 0x400)) := by
  have high : 0x10000 ≤ c.toNat := by
    have value := codePoint_of_le beyond
    omega
  have bounds := toNat_bounds c
  apply IsWritten.pair
  · rw [isHighSurrogate_iff]
    omega
  · rw [isLowSurrogate_iff]
    omega
  · exact ofPair_halves high

theorem isWritten_stringChar (c : Char) : IsWritten c (stringChar .ascii c) := by
  unfold stringChar
  split_ifs with quote backslash line carriage tab back form holds first
  · exact .letter (by rw [quote]; rfl) (by decide)
  · exact .letter (by rw [backslash]; rfl) (by decide)
  · exact .letter (by rw [line]; rfl) (by decide)
  · exact .letter (by rw [carriage]; rfl) (by decide)
  · exact .letter (by rw [tab]; rfl) (by decide)
  · exact .letter (by rw [back]; rfl) (by decide)
  · exact .letter (by rw [form]; rfl) (by decide)
  · rw [Charset.holds, Bool.and_eq_true, decide_eq_true_iff] at holds
    exact .plain quote backslash (Nat.not_lt.mpr holds.1)
  · exact .unit first
  · exact isWritten_pair (Nat.le_of_not_lt first)

theorem length_unitEscape {unit : Nat} (small : unit < 0x10000) : (unitEscape unit).length = 6 := by
  rw [unitEscape, List.length_cons, List.length_cons, length_hex small]

theorem piece_letter (start place : Nat) {c letter : Char} (named : escaped? letter = some c)
    (other : letter ≠ 'u') (tail : List Char) :
    piece start place ('\\' :: letter :: tail) = .char c 2 := by
  unfold piece
  split
  · next none => cases none
  · next same => cases same
  · next same => cases same
  · next same => exact absurd (List.cons.inj (List.cons.inj same).2).1 other
  · next same =>
      obtain ⟨rfl, -⟩ := List.cons.inj (List.cons.inj same).2
      rw [named]
  · next apart same =>
      exact (apart letter tail (List.cons.inj same).1.symm (List.cons.inj same).2.symm).elim

theorem piece_plain (start place : Nat) {c : Char} (quote : c ≠ '"') (backslash : c ≠ '\\')
    (visible : ¬c.toNat < 0x20) (tail : List Char) :
    piece start place (c :: tail) = .char c 1 := by
  unfold piece
  split
  · next none => cases none
  · next same => exact absurd (List.cons.inj same).1 quote
  · next same => exact absurd (List.cons.inj same).1 backslash
  · next same => exact absurd (List.cons.inj same).1 backslash
  · next same => exact absurd (List.cons.inj same).1 backslash
  · next same =>
      obtain ⟨rfl, -⟩ := List.cons.inj same
      exact if_neg visible

theorem piece_pair (start place high low : Nat) (tail : List Char) :
    piece start place (unitEscape high ++ unitEscape low ++ tail) =
      unicodePiece place (hex 4 high ++ '\\' :: 'u' :: (hex 4 low ++ tail)) := by
  rw [List.append_assoc]
  rfl

theorem IsWritten.piece_eq {c : Char} {written : List Char} (isWritten : IsWritten c written)
    (start place : Nat) {tail : List Char} (nonempty : tail ≠ [])
    (parts : isHighSurrogate (codePoint c) = true → Parts tail) :
    piece start place (written ++ tail) = .char c written.length := by
  cases isWritten with
  | letter named other => exact piece_letter start place named other tail
  | plain quote backslash visible => exact piece_plain start place quote backslash visible tail
  | unit first =>
      have unit := unicodePiece_unit place first nonempty parts
      rw [ofUnit_codePoint] at unit
      rw [length_unitEscape first]
      exact unit
  | pair isHigh isLow whole =>
      rw [isHighSurrogate_iff] at isHigh
      rw [isLowSurrogate_iff] at isLow
      rw [piece_pair, unicodePiece_pair place ((isHighSurrogate_iff _).mpr isHigh)
        ((isLowSurrogate_iff _).mpr isLow) nonempty, whole, List.length_append,
        length_unitEscape (by omega), length_unitEscape (by omega)]

theorem IsWritten.ne_nil {c : Char} {written : List Char} (isWritten : IsWritten c written) :
    written ≠ [] := by
  cases isWritten with
  | letter => exact List.cons_ne_nil _ _
  | plain => exact List.cons_ne_nil _ _
  | unit => exact List.cons_ne_nil _ _
  | pair => exact List.append_ne_nil_of_left_ne_nil (List.cons_ne_nil _ _) _

/-- An escape that a character begins with names no second half other than the character. -/
theorem IsWritten.parts {c : Char} {written : List Char} (isWritten : IsWritten c written)
    (other : isLowSurrogate (codePoint c) = false) (rest : List Char) : Parts (written ++ rest) := by
  intro second same
  cases isWritten with
  | letter named isLetter => exact absurd (List.cons.inj (List.cons.inj same).2).1 isLetter
  | plain quote backslash visible => exact absurd (List.cons.inj same).1 backslash
  | unit first =>
      have tail : hex 4 (codePoint c) ++ rest = second := (List.cons.inj (List.cons.inj same).2).2
      rw [← tail]
      exact ⟨codePoint c, hexQuad?_hex first rest, other⟩
  | @pair high low isHigh isLow whole =>
      rw [List.append_assoc] at same
      have tail : hex 4 high ++ (unitEscape low ++ rest) = second :=
        (List.cons.inj (List.cons.inj same).2).2
      rw [isHighSurrogate_iff] at isHigh
      rw [← tail]
      refine ⟨high, hexQuad?_hex (by omega) _, ?_⟩
      rw [Bool.eq_false_iff, ne_eq, isLowSurrogate_iff]
      omega

/-! ## Strings -/

theorem parts_of_isJoined {c : Char} {text : List Char} (joined : IsJoined (c :: text))
    (rest : List Char) (high : isHighSurrogate (codePoint c) = true) :
    Parts (text.flatMap (stringChar .ascii) ++ '"' :: rest) := by
  cases text with
  | nil =>
      intro second same
      cases same
  | cons next text =>
      have apart := (List.isChain_cons_cons.mp joined).1
      rw [high, Bool.true_and] at apart
      rw [List.flatMap_cons, List.append_assoc]
      exact (isWritten_stringChar next).parts apart _

/-- By induction on the text; each character takes one piece. -/
theorem stringBody_flatMap (start : Nat) {text : List Char} (joined : IsJoined text)
    (rest : List Char) {fuel : Nat} (enough : text.length < fuel) (place : Nat) :
    stringBody start fuel place (text.flatMap (stringChar .ascii) ++ '"' :: rest) =
      .ok (text, (text.flatMap (stringChar .ascii)).length + 1) := by
  induction text generalizing fuel place with
  | nil =>
      obtain ⟨fuel, rfl⟩ := Nat.exists_eq_succ_of_ne_zero (Nat.ne_of_gt enough)
      rfl
  | cons c text ih =>
      obtain ⟨fuel, rfl⟩ := Nat.exists_eq_succ_of_ne_zero (Nat.ne_of_gt (Nat.zero_lt_of_lt enough))
      have first := (isWritten_stringChar c).piece_eq start place
        (List.append_ne_nil_of_right_ne_nil _ (List.cons_ne_nil '"' rest))
        (parts_of_isJoined joined rest)
      have more := ih joined.tail (Nat.lt_of_succ_lt_succ enough)
        (place + (stringChar .ascii c).length)
      rw [List.flatMap_cons, List.append_assoc, stringBody, first]
      dsimp only
      rw [List.drop_left, more, List.length_append, Nat.add_assoc]

theorem length_le_flatMap (text : List Char) :
    text.length ≤ (text.flatMap (stringChar .ascii)).length := by
  induction text with
  | nil => exact Nat.le_refl 0
  | cons c text ih =>
      have pos := List.length_pos_iff.mpr (isWritten_stringChar c).ne_nil
      rw [List.flatMap_cons, List.length_append, List.length_cons]
      omega

theorem token_string (place : Nat) {text : String} (joined : IsJoined text.toList)
    (rest : List Char) :
    token place (stringText .ascii text ++ rest) =
      (.str text, (stringText .ascii text).length) := by
  have enough : text.toList.length <
      (text.toList.flatMap (stringChar .ascii) ++ '"' :: rest).length + 1 := by
    have least := length_le_flatMap text.toList
    rw [List.length_append]
    omega
  have body := stringBody_flatMap place joined rest enough (place + 1)
  unfold stringText
  rw [List.cons_append, List.cons_append, List.append_assoc, List.singleton_append]
  simp only [token]
  rw [body]
  simp

end Json

end ChainFlow

import ChainFlow.Json.Writable
import ChainFlow.Proofs.Json.Strings
import ChainFlow.Proofs.Text.Digit
import ChainFlow.Text.Encoding

/-!
# Texts that can be sent

A text can be sent if it holds no half of a pair. What is written for a reader of messages can always
be sent, as a half is no printable character and stands there by its code (`sendable_literal`). What is
written for a program keeps the halves, so if that can be sent, so can the texts in it
(`sendable_of_stringText`).
-/

namespace ChainFlow

namespace Text

def Sendable (text : List Char) : Prop := ∀ c ∈ text, isLone c = false

instance (text : List Char) : Decidable (Sendable text) :=
  decidable_of_iff (text.all (!isLone ·) = true) (by simp [Sendable])

theorem isLone_iff (c : Char) : isLone c = true ↔ 0xDD800 ≤ c.toNat ∧ c.toNat < 0xDE000 := by
  unfold isLone unit? standInOffset
  split
  · next inside => simpa using inside
  · next outside => simpa using outside

theorem isLone_of_small {c : Char} (small : c.toNat < 0xDD800) : isLone c = false := by
  rw [Bool.eq_false_iff, ne_eq, isLone_iff]
  omega

theorem sendable_iff (text : String) : Sendable text.toList ↔ hasLone text = false := by
  simp [Sendable, hasLone, List.any_eq_false]

@[simp]
theorem sendable_nil : Sendable [] := by simp [Sendable]

@[simp]
theorem sendable_cons (c : Char) (rest : List Char) :
    Sendable (c :: rest) ↔ isLone c = false ∧ Sendable rest := by simp [Sendable]

@[simp]
theorem sendable_append (first second : List Char) :
    Sendable (first ++ second) ↔ Sendable first ∧ Sendable second := by
  simp only [Sendable, List.mem_append, or_imp, forall_and]

theorem sendable_replicate (count : Nat) {c : Char} (whole : isLone c = false) :
    Sendable (List.replicate count c) := by
  intro other member
  rwa [List.eq_of_mem_replicate member]

theorem Sendable.of_sublist {text part : List Char} (sendable : Sendable text)
    (sublist : part.Sublist text) : Sendable part :=
  fun c member => sendable c (sublist.subset member)

theorem separated_cons_cons (separator first second : List Char) (rest : List (List Char)) :
    Json.separated separator (first :: second :: rest) =
      first ++ (separator ++ Json.separated separator (second :: rest)) := by
  simp [Json.separated, List.intersperse]

theorem sendable_separated {separator : List Char} (between : Sendable separator)
    {texts : List (List Char)} (all : ∀ text ∈ texts, Sendable text) :
    Sendable (Json.separated separator texts) := by
  induction texts with
  | nil => exact sendable_nil
  | cons first rest ih =>
      cases rest with
      | nil => simpa [Json.separated] using all first
      | cons second rest =>
          rw [separated_cons_cons, sendable_append, sendable_append]
          have behind : ∀ text ∈ second :: rest, Sendable text :=
            fun text member => all text (List.mem_cons_of_mem first member)
          exact ⟨all first List.mem_cons_self, between, ih behind⟩

theorem sendable_of_go {text : List Char} {place : Nat}
    (sent : unencodable?.go (fun _ => false) place text = none) : Sendable text := by
  induction text generalizing place with
  | nil => exact sendable_nil
  | cons c rest ih =>
      unfold unencodable?.go at sent
      split at sent
      · cases sent
      · next whole =>
        refine (sendable_cons c rest).mpr ⟨?_, ih sent⟩
        simpa [isLone] using whole

/-! ## Numbers -/

theorem sendable_digits (n : Nat) : Sendable (digits n) := by
  intro c member
  have digit := isDigit_of_mem_digits member
  refine isLone_of_small ?_
  rw [Char.isDigit, Bool.and_eq_true, decide_eq_true_iff, decide_eq_true_iff] at digit
  have bound : c.toNat ≤ 57 := digit.2
  omega

theorem sendable_integer (n : Int) : Sendable (integer n) := by
  have minus : isLone '-' = false := by decide
  unfold integer
  split <;> simp [minus, sendable_digits]

theorem isLone_digitChar {n : Nat} (small : n < 16) : isLone (Nat.digitChar n) = false := by
  have all : ∀ n : Fin 16, isLone (Nat.digitChar n) = false := by decide
  exact all ⟨n, small⟩

theorem sendable_toDigits (n : Nat) : Sendable (Nat.toDigits 16 n) := by
  induction n using Nat.strongRecOn with
  | ind n ih =>
      by_cases small : n < 16
      · rw [Nat.toDigits_of_lt_base small, sendable_cons]
        exact ⟨isLone_digitChar small, sendable_nil⟩
      · rw [Nat.toDigits_of_base_le (by omega) (Nat.le_of_not_lt small), sendable_append, sendable_cons]
        exact ⟨ih (n / 16) (by omega), isLone_digitChar (by omega), sendable_nil⟩

theorem sendable_hex (width n : Nat) : Sendable (hex width n) := by
  rw [hex, sendable_append]
  exact ⟨sendable_replicate _ (by decide), sendable_toDigits n⟩

theorem sendable_pointed {digits : List Char} (sendable : Sendable digits) (whole : Int) :
    Sendable (Binary64.pointed digits whole) := by
  have zero : isLone '0' = false := by decide
  have point : isLone '.' = false := by decide
  unfold Binary64.pointed
  split
  · simp [zero, point, sendable, sendable_replicate]
  · split
    · simp [zero, point, sendable, sendable_replicate]
    · simp [point, sendable.of_sublist (List.take_sublist _ _),
        sendable.of_sublist (List.drop_sublist _ _)]

theorem sendable_exponential {digits : List Char} (sendable : Sendable digits) (power : Int) :
    Sendable (Binary64.exponential digits power) := by
  have zero : isLone '0' = false := by decide
  have marks : isLone 'e' = false ∧ isLone '.' = false ∧ isLone '-' = false ∧ isLone '+' = false := by
    decide
  have tail : Sendable (if digits.length ≤ 1 then [] else '.' :: digits.drop 1) := by
    split
    · exact sendable_nil
    · rw [sendable_cons]
      exact ⟨marks.2.1, sendable.of_sublist (List.drop_sublist _ _)⟩
  have sign : isLone (if power < 0 then '-' else '+') = false := by split <;> simp [marks]
  simp only [Binary64.exponential, sendable_append, sendable_cons]
  exact ⟨⟨sendable.of_sublist (List.take_sublist _ _), tail⟩, marks.1, sign,
    sendable_replicate _ zero, sendable_digits _⟩

theorem sendable_float (value : Binary64) : Sendable value.text := by
  cases value with
  | nan => decide
  | infinite negative => cases negative <;> decide
  | finite negative mantissa exponent =>
      have sign : Sendable (if negative then ['-'] else []) := by cases negative <;> decide
      simp only [Binary64.text, Binary64.magnitudeText, sendable_append]
      refine ⟨sign, ?_⟩
      split
      · exact sendable_pointed (sendable_digits _) _
      · exact sendable_exponential (sendable_digits _) _

/-! ## Quoted texts -/

/-- Bisection comes out the same for numbers that no bound lies between. -/
theorem search_eq {bounds : Array Nat} {n m : Nat}
    (same : ∀ i, bounds.getD i 0 ≤ n ↔ bounds.getD i 0 ≤ m) (fuel low high : Nat) :
    boundsBelow.search bounds n fuel low high = boundsBelow.search bounds m fuel low high := by
  induction fuel generalizing low high with
  | zero => rfl
  | succ fuel ih => simp only [boundsBelow.search, same, ih]

theorem inRuns_of_apart {bounds : Array Nat} {c : Char} {low high : Nat} (above : low ≤ c.toNat)
    (below : c.toNat < high)
    (apart : bounds.toList.all (fun bound => bound ≤ low || high ≤ bound) = true) :
    inRuns bounds c = (boundsBelow bounds low % 2 == 1) := by
  have same : ∀ i, bounds.getD i 0 ≤ c.toNat ↔ bounds.getD i 0 ≤ low := by
    intro i
    rw [Array.getD_eq_getD_getElem?]
    cases found : bounds[i]? with
    | none => simp
    | some bound =>
        have member := Array.mem_toList_iff.mpr (Array.mem_of_getElem? found)
        have outside := List.all_eq_true.mp apart bound member
        rw [Bool.or_eq_true, decide_eq_true_iff, decide_eq_true_iff] at outside
        rw [Option.getD_some]
        omega
  unfold inRuns boundsBelow
  rw [search_eq same]

/-- The runs of printable characters have no bound among the halves, and none of them holds the
first. -/
theorem isPrintable_of_isLone {c : Char} (lone : isLone c = true) : isPrintable c = false := by
  obtain ⟨low, high⟩ := (isLone_iff c).mp lone
  have apart : printableBounds.toList.all (fun bound => bound ≤ 0xDD800 || 0xDE000 ≤ bound) = true := by
    decide +kernel
  have first : (boundsBelow printableBounds 0xDD800 % 2 == 1) = false := by decide +kernel
  rw [isPrintable, inRuns_of_apart low high apart, first]

theorem sendable_codeEscape (c : Char) : Sendable (codeEscape c) := by
  have marks : isLone '\\' = false ∧ isLone 'x' = false ∧ isLone 'u' = false ∧ isLone 'U' = false := by
    decide
  unfold codeEscape
  dsimp only
  split
  · simp [marks, sendable_hex]
  · split <;> simp [marks, sendable_hex]

theorem sendable_quotedChar {mark : Char} (whole : isLone mark = false) (c : Char) :
    Sendable (quotedChar mark c) := by
  have letters : isLone '\\' = false ∧ isLone 't' = false ∧ isLone 'n' = false ∧ isLone 'r' = false := by
    decide
  unfold quotedChar
  split
  · next plain =>
    rcases plain with rfl | rfl <;> simp [whole, letters]
  split
  · simp [letters]
  split
  · simp [letters]
  split
  · simp [letters]
  split
  · next printable =>
    rw [sendable_cons, Bool.eq_false_iff]
    refine ⟨fun lone => ?_, sendable_nil⟩
    rw [isPrintable_of_isLone lone] at printable
    cases printable
  · exact sendable_codeEscape c

theorem sendable_quoted (text : List Char) : Sendable (quoted text) := by
  have mark : isLone (quoteMark text) = false := by
    unfold quoteMark
    split <;> decide
  simp only [quoted, sendable_append, sendable_cons]
  refine ⟨⟨mark, ?_⟩, mark, sendable_nil⟩
  intro c member
  obtain ⟨source, _, written⟩ := List.mem_flatMap.mp member
  exact sendable_quotedChar mark source c written

end Text

namespace Json

open Text

mutual

theorem sendable_literal : (value : Json) → Sendable value.literal
  | .null => by decide
  | .bool value => by cases value <;> decide
  | .int value => sendable_integer value
  | .float value => sendable_float value
  | .str text => sendable_quoted text.toList
  | .arr items => by
      have brackets : isLone '[' = false ∧ isLone ']' = false := by decide
      simp only [literal, sendable_append, sendable_cons, List.cons_append]
      exact ⟨brackets.1, sendable_separated (by decide) (sendable_literalItems items), brackets.2,
        sendable_nil⟩
  | .obj fields => by
      have brackets : isLone '{' = false ∧ isLone '}' = false := by decide
      simp only [literal, sendable_append, sendable_cons, List.cons_append]
      exact ⟨brackets.1, sendable_separated (by decide) (sendable_literalFields fields), brackets.2,
        sendable_nil⟩

theorem sendable_literalItems : (items : List Json) → ∀ text ∈ literalItems items, Sendable text
  | [] => by simp [literalItems]
  | item :: rest => by
      rw [literalItems, List.forall_mem_cons]
      exact ⟨sendable_literal item, sendable_literalItems rest⟩

theorem sendable_literalFields : (fields : List (String × Json)) →
    ∀ text ∈ literalFields fields, Sendable text
  | [] => by simp [literalFields]
  | (name, value) :: rest => by
      rw [literalFields, List.forall_mem_cons, sendable_append, sendable_append]
      exact ⟨⟨⟨sendable_quoted name.toList, by decide⟩, sendable_literal value⟩,
        sendable_literalFields rest⟩

end

theorem sendable_of_stringText {text : String} (sendable : Sendable (stringText .unicode text)) :
    Sendable text.toList := by
  intro c member
  by_contra lone
  have high := ((isLone_iff c).mp (by simpa using lone)).1
  have written : c ∈ stringChar .unicode c := by
    have other : ∀ special : Char, special.toNat < 0xDD800 → c ≠ special := by
      rintro special small rfl
      omega
    unfold stringChar
    rw [if_neg (other _ (by decide)), if_neg (other _ (by decide)), if_neg (other _ (by decide)),
      if_neg (other _ (by decide)), if_neg (other _ (by decide)), if_neg (other _ (by decide)),
      if_neg (other _ (by decide)), if_pos (by simp only [Charset.holds, decide_eq_true_eq]; omega)]
    exact List.mem_singleton_self c
  refine lone (sendable c ?_)
  simp only [stringText, List.mem_append, List.mem_cons, List.mem_flatMap]
  exact .inl (.inr ⟨c, member, written⟩)

end Json

end ChainFlow

import ChainFlow.Proofs.Cost
import ChainFlow.Proofs.Decimal.Finite

/-!
# Fees as amounts of money

The fee of a quote is a finite number with two decimals if and only if the first value that counts for
it is not a not-a-number, which counts (`Fee.isMoney_totalUnder_iff`). No value stops the search: each
that is no number is passed over.
-/

namespace ChainFlow

/-! ## Texts of money -/

/-- Whether a text denotes a finite number with exactly two decimals. -/
def IsMoney (text : String) : Prop :=
  ∃ negative whole cents,
    text.toList = (if negative then ['-'] else []) ++ (whole ++ '.' :: cents) ∧ whole ≠ [] ∧
      (∀ c ∈ whole ++ cents, c.isDigit = true) ∧ cents.length = 2 ∧
      Decimal.parse text.toList = .ok (.finite negative (Text.natOfDigits (whole ++ cents)) (-2))

namespace Decimal

theorem isMoney_toText (negative : Bool) {coefficient : Nat} (fits : coefficient < 10 ^ 28) :
    IsMoney (Decimal.finite negative coefficient (-2)).toText := by
  have digits : ∀ c ∈ Text.digits coefficient, c.isDigit = true := fun c => Text.isDigit_of_mem_digits
  have small : (-2 : Int) ≤ 0 := by decide
  obtain ⟨whole, tail, fraction, parts, places⟩ :=
    pointed_parts digits (Text.digits_ne_nil coefficient) small
  have cents : fraction.length = 2 := by omega
  have unpowered : (-2 : Int) ≤ 0 ∧ -6 < -2 + ((Text.digits coefficient).length : Int) :=
    ⟨small, by omega⟩
  have written : (Decimal.finite negative coefficient (-2)).toText.toList =
      (if negative then ['-'] else []) ++ (whole ++ tail) := by
    simp only [toText, String.toList_ofList, render, magnitudeText, if_pos unpowered, parts.text_eq]
  have value : Text.natOfDigits (whole ++ fraction) = coefficient := by
    rw [parts.value, Text.natOfDigits_digits]
  obtain rfl | ⟨-, rfl⟩ := parts.tail_eq
  · refine ⟨negative, whole, fraction, written, parts.nonempty, fun c member => ?_, cents, ?_⟩
    · rcases List.mem_append.mp member with own | other
      · exact parts.wholeDigits c own
      · exact parts.fractionDigits c other
    · rw [parse_toText (.amount negative fits), value]
  · cases cents

theorem not_isMoney_nan (negative : Bool) (payload : Nat) :
    ¬IsMoney (Decimal.nan negative false payload).toText := by
  rintro ⟨_, _, _, -, -, -, -, reads⟩
  rw [parse_toText (.quiet negative payload)] at reads
  cases reads

/-- A number that is brought to two places is a quiet not-a-number just if it was one. -/
theorem quantize_cases {rounding : Rounding} {x y : Decimal} (done : quantize rounding x (-2) = .ok y) :
    (∃ negative coefficient, coefficient < 10 ^ 28 ∧ y = .finite negative coefficient (-2)) ∨
      ∃ negative payload, x = .nan negative false payload ∧ y = quiet negative payload := by
  cases x with
  | nan negative signaling payload =>
      cases signaling with
      | true => cases done
      | false =>
          cases done
          exact .inr ⟨negative, payload, rfl, rfl⟩
  | infinite negative => cases done
  | finite negative coefficient exponent =>
      cases isCost_quantize done with
      | amount sign fits => exact .inl ⟨sign, _, fits, rfl⟩
      | quiet sign payload =>
          simp only [quantize] at done
          repeat' split at done
          all_goals cases done

end Decimal

/-! ## Values that count -/

namespace Fee

theorem isMoney_nothing : IsMoney nothing := by
  have written : nothing = (Decimal.finite false 0 (-2)).toText := rfl
  rw [written]
  exact Decimal.isMoney_toText false (by decide)

/-- The text of a value as a cost, be it a number or not. -/
def priced (value : Json) : Except Decimal.Signal String :=
  (Decimal.parse value.plain.toList).bind Amount.formatCost

/-- Whether a value is looked at for a number: null is not, and neither is an object. -/
def Counts (value : Json) : Prop := value ≠ .null ∧ ∀ fields, value ≠ .obj fields

theorem ofValue?_of_counts {value : Json} (counts : Counts value) :
    ofValue? value = (priced value).toOption := by
  unfold ofValue? priced
  split
  · exact absurd rfl counts.1
  · exact absurd rfl (counts.2 _)
  · cases Decimal.parse value.plain.toList <;> rfl

theorem counts_of_ofValue? {value : Json} {text : String} (stated : ofValue? value = some text) :
    Counts value := by
  constructor
  · rintro rfl
    cases stated
  · rintro fields rfl
    cases stated

/-- Whatever is wrong with a value, it is a signal after which the search goes on. -/
theorem priced_ne_overflow (value : Json) : priced value ≠ .error .overflow := by
  intro failed
  unfold priced at failed
  cases read : Decimal.parse value.plain.toList with
  | error signal =>
      rw [read] at failed
      cases failed
      exact Decimal.parse_ne_overflow _ read
  | ok number =>
      rw [read] at failed
      change (Decimal.quantize .halfUp number (-2)).map Decimal.toText = _ at failed
      cases rounded : Decimal.quantize .halfUp number (-2) with
      | error signal =>
          rw [rounded] at failed
          cases failed
          exact Decimal.quantize_ne_overflow _ _ _ rounded
      | ok cost =>
          rw [rounded] at failed
          cases failed

/-- Whether a value says that it is not a number. -/
def StatesNone (value : Json) : Prop :=
  Counts value ∧ ∃ negative payload, Decimal.parse value.plain.toList = .ok (.nan negative false payload)

theorem ofValue?_of_statesNone {value : Json} (states : StatesNone value) :
    ∃ negative payload, ofValue? value = some (Decimal.quiet negative payload).toText := by
  obtain ⟨counts, negative, payload, read⟩ := states
  refine ⟨negative, payload, ?_⟩
  rw [ofValue?_of_counts counts, priced, read]
  rfl

theorem isMoney_of_ofValue? {value : Json} {text : String} (stated : ofValue? value = some text)
    (some_ : ¬StatesNone value) : IsMoney text := by
  have counts := counts_of_ofValue? stated
  rw [ofValue?_of_counts counts, priced] at stated
  cases read : Decimal.parse value.plain.toList with
  | error signal =>
      rw [read] at stated
      cases stated
  | ok number =>
      rw [read] at stated
      change ((Decimal.quantize .halfUp number (-2)).map Decimal.toText).toOption = some text at stated
      cases rounded : Decimal.quantize .halfUp number (-2) with
      | error signal =>
          rw [rounded] at stated
          cases stated
      | ok cost =>
          rw [rounded] at stated
          cases stated
          obtain ⟨negative, coefficient, fits, rfl⟩ | ⟨negative, payload, rfl, -⟩ :=
            Decimal.quantize_cases rounded
          · exact Decimal.isMoney_toText negative fits
          · exact absurd ⟨counts, negative, payload, read⟩ some_

/-! ## The first value that counts -/

/-- Whether the first value under some paths that is taken for the fee says that it is not a number. -/
def Poisons (paths : List (List String)) (quote : Json) : Prop :=
  ∃ earlier path later value, paths = earlier ++ path :: later ∧
    (∀ other ∈ earlier, (follow? other quote).bind ofValue? = none) ∧
    follow? path quote = some value ∧ StatesNone value

variable {paths : List (List String)} {quote : Json}

theorem totalUnder_of_poisons (poisons : Poisons paths quote) :
    ∃ negative payload, totalUnder paths quote = (Decimal.quiet negative payload).toText := by
  obtain ⟨earlier, path, later, value, rfl, before, found, states⟩ := poisons
  obtain ⟨negative, payload, stated⟩ := ofValue?_of_statesNone states
  have first : (earlier ++ path :: later).findSome? (fun path => (follow? path quote).bind ofValue?) =
      some (Decimal.quiet negative payload).toText := by
    refine List.findSome?_eq_some_iff.mpr ⟨earlier, path, later, rfl, ?_, before⟩
    rw [found]
    exact stated
  refine ⟨negative, payload, ?_⟩
  rw [totalUnder, first]
  rfl

theorem isMoney_of_not_poisons (clean : ¬Poisons paths quote) : IsMoney (totalUnder paths quote) := by
  unfold totalUnder
  cases found : paths.findSome? fun path => (follow? path quote).bind ofValue? with
  | none => exact isMoney_nothing
  | some text =>
      obtain ⟨earlier, path, later, same, here, before⟩ := List.findSome?_eq_some_iff.mp found
      obtain ⟨value, follows, stated⟩ := Option.bind_eq_some_iff.mp here
      exact isMoney_of_ofValue? stated fun states =>
        clean ⟨earlier, path, later, value, same, before, follows, states⟩

/-! ## Sums with fees -/

theorem add_of_isMoney {tally : Tally} {reported : Quote} (isSum : Decimal.IsCostSum tally.cost)
    (finite : tally.cost.IsFinite) (success : reported.success = true)
    (isCost : IsCostText reported.cost) (money : IsMoney reported.cost) :
    ∃ after, tally.add reported = (.ok (), after) ∧ after.cost.IsFinite := by
  obtain ⟨cost, priced, reads⟩ := isCost
  obtain ⟨total, added, -⟩ := Decimal.isCostSum_add isSum priced
  obtain ⟨_, _, _, -, -, -, -, states⟩ := money
  have isFinite : cost.IsFinite := ⟨_, _, _, Except.ok.inj (reads.symm.trans states)⟩
  refine ⟨⟨tally.quotes ++ [reported], total, tally.seconds + reported.seconds⟩, ?_,
    Decimal.isFinite_add finite isFinite added⟩
  unfold Tally.add
  simp only [Tally.addCost, reads, added, success, reduceIte]

theorem add_of_none {tally : Tally} {reported : Quote} {negative : Bool} {payload : Nat}
    (isSum : Decimal.IsCostSum tally.cost) (finite : tally.cost.IsFinite)
    (success : reported.success = true)
    (none : reported.cost = (Decimal.nan negative false payload).toText) :
    ∃ after, tally.add reported = (.ok (), after) ∧ ¬after.cost.IsFinite := by
  have reads := Decimal.parse_toText (.quiet negative payload)
  rw [← none] at reads
  obtain ⟨total, added, -⟩ := Decimal.isCostSum_add isSum (.quiet negative payload)
  refine ⟨⟨tally.quotes ++ [reported], total, tally.seconds + reported.seconds⟩, ?_,
    Decimal.add_nan finite added⟩
  unfold Tally.add
  simp only [Tally.addCost, reads, added, success, reduceIte]

end Fee

end ChainFlow

import ChainFlow.Estimate
import ChainFlow.Fee
import ChainFlow.Flow.DryRun
import ChainFlow.Proofs.Decimal.Sum
import ChainFlow.Proofs.Decimal.Written
import ChainFlow.Proofs.Result

/-!
# Costs as texts

What a node that is quoted may cost is written down by `Amount.formatCost`, be it a fee that a backend
states or an estimate. Such a text reads back as a cost, so a tally of quotes never stops.
-/

namespace ChainFlow

namespace Decimal

theorem isCost_quantize {rounding : Rounding} {x y : Decimal}
    (done : quantize rounding x (-2) = .ok y) : IsCost y := by
  cases x with
  | nan negative signaling payload =>
      cases signaling with
      | true => cases done
      | false =>
          cases done
          exact .quiet _ _
  | infinite negative => cases done
  | finite negative coefficient exponent =>
      simp only [quantize] at done
      split at done
      · cases done
        exact .amount negative (by decide)
      · split at done
        · cases done
        · rename_i few
          split at done
          · cases done
            refine .amount negative (Nat.lt_of_lt_of_le (Nat.mul_lt_mul_of_pos_right
              (Text.lt_pow_digitCount coefficient) (Nat.pow_pos (by decide))) ?_)
            rw [tenTo_eq, ← Nat.pow_add]
            simp only [precision] at few
            exact Nat.pow_le_pow_right (by decide) (by omega)
          · split at done
            · cases done
            · rename_i short
              cases done
              exact .amount negative ((Text.digitCount_le_iff (by decide)).mp (Nat.le_of_not_lt short))

theorem parse_toText {x : Decimal} (isCost : IsCost x) : parse x.toText.toList = .ok x := by
  unfold toText
  rw [String.toList_ofList]
  cases isCost with
  | amount negative fits =>
      rename_i coefficient
      have few := (Text.digitCount_le_iff (by decide)).mpr fits
      have pos := Text.digitCount_pos coefficient
      apply parse_finite
      · decide
      · omega
      · decide
      · simp only [adjusted, greatestExponent]
        omega
  | quiet negative payload => exact parse_quiet negative payload

end Decimal

/-- A text that reads as a cost. -/
def IsCostText (text : String) : Prop :=
  ∃ cost, Decimal.IsCost cost ∧ Decimal.parse text.toList = .ok cost

theorem isCostText_formatCost {cost : Decimal} {text : String}
    (written : Amount.formatCost cost = .ok text) : IsCostText text := by
  unfold Amount.formatCost at written
  cases rounded : Decimal.quantize .halfUp cost (-2) with
  | error signal =>
      rw [rounded] at written
      cases written
  | ok value =>
      rw [rounded] at written
      cases written
      have isCost := Decimal.isCost_quantize rounded
      exact ⟨value, isCost, Decimal.parse_toText isCost⟩

theorem isCostText_nothing : IsCostText Fee.nothing :=
  ⟨.finite false 0 (-2), .amount false (by decide), rfl⟩

theorem isCostText_totalUnder (paths : List (List String)) (quote : Json) :
    IsCostText (Fee.totalUnder paths quote) := by
  unfold Fee.totalUnder
  cases found : paths.findSome? fun path => (Fee.follow? path quote).bind Fee.ofValue? with
  | none => exact isCostText_nothing
  | some text =>
      obtain ⟨path, _, here⟩ := List.exists_of_findSome?_eq_some found
      obtain ⟨value, _, stated⟩ := Option.bind_eq_some_iff.mp here
      unfold Fee.ofValue? at stated
      split at stated
      · cases stated
      · cases stated
      · split at stated
        · rename_i number _
          cases written : Amount.formatCost number with
          | error signal =>
              rw [written] at stated
              cases stated
          | ok text' =>
              rw [written] at stated
              cases stated
              exact isCostText_formatCost written
        · cases stated

theorem isCostText_total (quote : Json) : IsCostText (Fee.total quote) :=
  isCostText_totalUnder Fee.paths quote

theorem isCostText_fusedFees (fields : Fields) :
    IsCostText (Engine.fusedFees fields).1 ∧ IsCostText (Engine.fusedFees fields).2 := by
  unfold Engine.fusedFees
  split
  · exact ⟨isCostText_total _, isCostText_total _⟩
  · exact ⟨isCostText_total _, isCostText_nothing⟩

theorem isCostText_bridgeCostOf {base : Decimal} {amount : Json} {text : String}
    (done : Engine.bridgeCostOf base amount = .ok text) : IsCostText text := by
  obtain ⟨entered, _, done⟩ := Except.bind_eq_ok done
  obtain ⟨hundreds, _, done⟩ := Except.bind_eq_ok done
  obtain ⟨part, _, done⟩ := Except.bind_eq_ok (ofSignal_eq_ok done)
  obtain ⟨factor, _, done⟩ := Except.bind_eq_ok done
  obtain ⟨cost, _, done⟩ := Except.bind_eq_ok done
  exact isCostText_formatCost done

theorem isCostText_spreadCost {base : Decimal} {number : Binary64} {text : String}
    (done : Engine.spreadCost base number = .ok text) : IsCostText text := by
  obtain ⟨part, _, done⟩ := Except.bind_eq_ok done
  obtain ⟨cost, _, done⟩ := Except.bind_eq_ok done
  exact isCostText_formatCost done

/-! ## Tallies -/

/-- A quote whose cost, if it has one, reads as a cost. -/
def Quote.IsPriced (quote : Quote) : Prop := quote.success = true → IsCostText quote.cost

theorem add_of_isPriced {tally : Tally} {quote : Quote} (isSum : Decimal.IsCostSum tally.cost)
    (isPriced : quote.IsPriced) :
    ∃ after, tally.add quote = (.ok (), after) ∧ Decimal.IsCostSum after.cost := by
  unfold Tally.add
  cases success : quote.success with
  | false => exact ⟨_, rfl, isSum⟩
  | true =>
      obtain ⟨cost, isCost, reads⟩ := isPriced success
      obtain ⟨total, added, isTotal⟩ := Decimal.isCostSum_add isSum isCost
      refine ⟨⟨tally.quotes ++ [quote], total, tally.seconds + quote.seconds⟩, ?_, isTotal⟩
      simp only [Tally.addCost, reads, added, reduceIte]

theorem addAll_of_isPriced {tally : Tally} {quotes : List Quote}
    (isSum : Decimal.IsCostSum tally.cost) (arePriced : ∀ quote ∈ quotes, quote.IsPriced) :
    ∃ after, Engine.addAll tally quotes = (.ok (), after) ∧ Decimal.IsCostSum after.cost := by
  induction quotes generalizing tally with
  | nil => exact ⟨tally, rfl, isSum⟩
  | cons quote quotes ih =>
      rw [List.forall_mem_cons] at arePriced
      obtain ⟨between, added, isBetween⟩ := add_of_isPriced isSum arePriced.1
      simp only [Engine.addAll, added]
      exact ih isBetween arePriced.2

theorem quotes_add (tally : Tally) (quote : Quote) :
    (tally.add quote).2.quotes = tally.quotes ++ [quote] := by
  unfold Tally.add
  cases quote.success with
  | false => rfl
  | true =>
      simp only [reduceIte]
      cases Tally.addCost tally.cost quote.cost <;> rfl

theorem quotes_addAll {tally total : Tally} {quotes : List Quote}
    (added : Engine.addAll tally quotes = (.ok (), total)) :
    total.quotes = tally.quotes ++ quotes := by
  induction quotes generalizing tally with
  | nil =>
      cases added
      rw [List.append_nil]
  | cons quote quotes ih =>
      have one := quotes_add tally quote
      unfold Engine.addAll at added
      rcases first : tally.add quote with ⟨fault | _, between⟩
      · rw [first] at added
        cases added
      · rw [first] at added one
        rw [ih added, one, List.append_assoc, List.singleton_append]

theorem quotes_build {tally : Tally} {rate : Binary64} {quote : FlowQuote}
    (built : tally.build rate = .ok quote) : quote.quotes = tally.quotes := by
  obtain ⟨cost, _, rfl⟩ := Except.map_eq_ok built
  rfl

theorem isCostSum_empty : Decimal.IsCostSum Tally.empty.cost :=
  @Decimal.IsCostSum.amount false 0 2 (by decide) (by decide)

end ChainFlow

import ChainFlow.Proofs.Cost
import ChainFlow.Proofs.Decimal.Exact
import Mathlib.Algebra.BigOperators.Group.List.Basic
import Mathlib.Algebra.Ring.Int.Defs
import Mathlib.Algebra.Ring.Nat

/-!
# Exact totals

Costs with two places add up without rounding as long as their absolute values together stay below 10
to the 28th hundredths: no partial sum, in whichever order it comes about, is longer than that. So the
total cost, like the total time, is the sum over the quotes that succeeded, and no order of the quotes
makes a difference to it.
-/

namespace ChainFlow

/-- How much a quote may change a total of costs, in hundredths. -/
def Quote.hundredths (quote : Quote) : Nat :=
  if quote.success then
    match Decimal.parse quote.cost.toList with
    | .ok cost => cost.cents.natAbs
    | .error _ => 0
  else 0

namespace Quote

/-- What a quote adds to a total of costs, in hundredths. -/
def cents (quote : Quote) : Int :=
  if quote.success then
    match Decimal.parse quote.cost.toList with
    | .ok cost => cost.cents
    | .error _ => 0
  else 0

/-- Whether the cost of a quote, if it counts, is a finite number with two places. -/
def InCents (quote : Quote) : Prop :=
  quote.success = true → ∃ negative coefficient,
    Decimal.parse quote.cost.toList = .ok (.finite negative coefficient (-2))

/-- The total of the costs of those quotes that succeeded, in hundredths. -/
def totalCents (quotes : List Quote) : Int := (quotes.map cents).sum

/-- The total of the times of those quotes that succeeded. -/
def totalSeconds (quotes : List Quote) : Int := ((quotes.filter success).map seconds).sum

theorem natAbs_cents (quote : Quote) : quote.cents.natAbs = quote.hundredths := by
  unfold cents hundredths
  split
  · split <;> rfl
  · rfl

theorem natAbs_totalCents_le (quotes : List Quote) :
    (totalCents quotes).natAbs ≤ (quotes.map hundredths).sum := by
  unfold totalCents
  induction quotes with
  | nil => exact Nat.le_refl _
  | cons quote quotes ih =>
      rw [List.map_cons, List.map_cons, List.sum_cons, List.sum_cons, ← natAbs_cents]
      have triangle := Int.natAbs_add_le quote.cents (quotes.map cents).sum
      omega

end Quote

/-- A tally that is the exact sum of the quotes in it. -/
structure Tally.Exact (tally : Tally) : Prop where
  cost : Decimal.IsTotal (Quote.totalCents tally.quotes) tally.cost
  seconds : tally.seconds = Quote.totalSeconds tally.quotes

theorem exact_empty : Tally.empty.Exact := ⟨.nothing, rfl⟩

theorem exact_add {tally : Tally} {quote : Quote} (isExact : tally.Exact) (inCents : quote.InCents)
    (small : ((tally.quotes ++ [quote]).map Quote.hundredths).sum < 10 ^ 28) :
    ∃ after, tally.add quote = (.ok (), after) ∧ after.Exact := by
  obtain ⟨isTotal, seconds_eq⟩ := isExact
  have total : Quote.totalCents (tally.quotes ++ [quote]) =
      Quote.totalCents tally.quotes + quote.cents := by simp [Quote.totalCents]
  unfold Tally.add
  cases success : quote.success with
  | false =>
      have nothing : quote.cents = 0 := by simp [Quote.cents, success]
      refine ⟨_, rfl, ?_, ?_⟩
      · rwa [total, nothing, Int.add_zero]
      · simpa [Quote.totalSeconds, success] using seconds_eq
  | true =>
      obtain ⟨negative, coefficient, reads⟩ := inCents success
      have cents_eq : quote.cents = Decimal.signed negative coefficient := by
        simp only [Quote.cents, success, reads, reduceIte, Decimal.cents_cost]
      have short : (Quote.totalCents tally.quotes).natAbs + coefficient < 10 ^ 28 := by
        have bound := Quote.natAbs_totalCents_le tally.quotes
        have own : quote.hundredths = coefficient := by
          rw [← Quote.natAbs_cents, cents_eq, Decimal.natAbs_signed]
        rw [List.map_append, List.sum_append, List.map_singleton, List.sum_singleton, own] at small
        omega
      have added := Decimal.add_of_isTotal isTotal negative short
      rw [← cents_eq, ← total] at added
      refine ⟨⟨tally.quotes ++ [quote], .ofCents (Quote.totalCents (tally.quotes ++ [quote])),
        tally.seconds + quote.seconds⟩, ?_, .cents _, ?_⟩
      · simp only [Tally.addCost, reads, added, reduceIte]
      · simp [Quote.totalSeconds, success, seconds_eq]

theorem exact_addAll {tally : Tally} {quotes : List Quote} (isExact : tally.Exact)
    (inCents : ∀ quote ∈ quotes, quote.InCents)
    (small : ((tally.quotes ++ quotes).map Quote.hundredths).sum < 10 ^ 28) :
    ∃ after, Engine.addAll tally quotes = (.ok (), after) ∧ after.Exact := by
  induction quotes generalizing tally with
  | nil => exact ⟨tally, rfl, isExact⟩
  | cons quote quotes ih =>
      rw [List.forall_mem_cons] at inCents
      rw [List.append_cons] at small
      have shorter : ((tally.quotes ++ [quote]).map Quote.hundredths).sum < 10 ^ 28 := by
        rw [@List.map_append _ _ _ _ quotes, List.sum_append] at small
        omega
      obtain ⟨between, added, isBetween⟩ := exact_add isExact inCents.1 shorter
      have listed := quotes_add tally quote
      rw [added] at listed
      simp only [Engine.addAll, added]
      exact ih isBetween inCents.2 (by rwa [listed])

theorem build_of_exact {tally : Tally} (isExact : tally.Exact) (rate : Binary64)
    (small : (tally.quotes.map Quote.hundredths).sum < 10 ^ 28) :
    tally.build rate = .ok ⟨Decimal.centsText (Quote.totalCents tally.quotes),
      Quote.totalSeconds tally.quotes, if tally.quotes.all Quote.success then rate else .zero false,
      tally.quotes⟩ := by
  have short := Nat.lt_of_le_of_lt (Quote.natAbs_totalCents_le tally.quotes) small
  rw [Tally.build, Decimal.quantize_of_isTotal .halfEven isExact.cost short,
    ← Decimal.toText_ofCents, ← isExact.seconds]
  rfl

/-- Quotes with costs of two places whose absolute values together are less than 10 to the 26th are added
up and their total is written without a fault, in whichever order they come: the cost is the exact sum of
the costs of those that succeeded, the time that of their times, and the rate counts if all succeeded. -/
theorem totals_exact (rate : Binary64) {quotes : List Quote} (inCents : ∀ quote ∈ quotes, quote.InCents)
    (small : (quotes.map Quote.hundredths).sum < 10 ^ 28) :
    ∀ reordered, quotes.Perm reordered →
      ∃ tally, Engine.addAll .empty reordered = (.ok (), tally) ∧
        tally.build rate = .ok ⟨Decimal.centsText (Quote.totalCents quotes), Quote.totalSeconds quotes,
          if quotes.all Quote.success then rate else .zero false, reordered⟩ := by
  intro reordered perm
  have cost : Quote.totalCents reordered = Quote.totalCents quotes := (perm.map _).symm.sum_eq
  have size : (reordered.map Quote.hundredths).sum = (quotes.map Quote.hundredths).sum :=
    (perm.map _).symm.sum_eq
  have time : Quote.totalSeconds reordered = Quote.totalSeconds quotes :=
    ((perm.filter _).map _).symm.sum_eq
  have success : reordered.all Quote.success = quotes.all Quote.success := perm.symm.all_eq
  obtain ⟨tally, added, isExact⟩ := exact_addAll exact_empty
    (fun quote member => inCents quote (perm.mem_iff.mpr member)) (size ▸ small)
  have listed : tally.quotes = reordered := quotes_addAll added
  have built := build_of_exact isExact rate (by rwa [listed, size])
  rw [listed, cost, time, success] at built
  exact ⟨tally, added, built⟩

/-- Costs of either sign, a zero below zero, one of 26 digits and one that does not count. -/
def Sample.quotes : List Quote :=
  [⟨"a", true, "-0.00", 7, none, none⟩, ⟨"b", true, "99999999999999999999999999.00", 30, none, none⟩,
    .failed "c" "backend down", ⟨"d", false, "no number", 99, none, none⟩,
    ⟨"e", true, "-0.05", 5, none, none⟩]

theorem totals_exact_sample : (∀ quote ∈ Sample.quotes, quote.InCents) ∧
    (Sample.quotes.map Quote.hundredths).sum < 10 ^ 28 ∧
    ∃ tally, Engine.addAll .empty Sample.quotes.reverse = (.ok (), tally) ∧
      tally.build (.zero true) =
        .ok ⟨"99999999999999999999999998.95", 42, .zero false, Sample.quotes.reverse⟩ := by
  have inCents : ∀ quote ∈ Sample.quotes, quote.InCents := by
    simp only [Sample.quotes, List.forall_mem_cons]
    refine ⟨fun _ => ⟨true, 0, rfl⟩, fun _ => ⟨false, 9999999999999999999999999900, rfl⟩, ?_, ?_,
      fun _ => ⟨true, 5, rfl⟩, List.forall_mem_nil _⟩ <;>
    exact fun success => Bool.noConfusion success
  have small : (Sample.quotes.map Quote.hundredths).sum < 10 ^ 28 := by decide
  exact ⟨inCents, small, totals_exact (.zero true) inCents small _ (List.reverse_perm _).symm⟩

end ChainFlow

import ChainFlow.Proofs.Flow.Visits
import ChainFlow.Proofs.Sample
import ChainFlow.Proofs.Tally
import Mathlib.Algebra.Ring.Nat

/-!
# The total of a dry run

Whatever a step comes to, its quotes can be added up; but the total is only written at the end, with
two places, and a total of 10 to the 28th hundredths or more cannot be. Then the dry run ends with a
fault although the drawing can be run. Nothing else makes it fail, and it does not come to this as long
as the costs of the steps together stay below that bound.
-/

namespace ChainFlow

/-! ## Adding quotes -/

theorem cents_add_quote {tally after : Tally} {quote : Quote} (isSum : Decimal.IsCostSum tally.cost)
    (isPriced : quote.IsPriced) (small : tally.cost.cents.natAbs + quote.hundredths < 10 ^ 28)
    (added : tally.add quote = (.ok (), after)) :
    after.cost.cents.natAbs ≤ tally.cost.cents.natAbs + quote.hundredths := by
  unfold Quote.hundredths at small ⊢
  unfold Tally.add at added
  cases success : quote.success with
  | false =>
      rw [success] at added
      cases added
      simp
  | true =>
      obtain ⟨cost, isCost, reads⟩ := isPriced success
      simp only [success, reads, reduceIte] at small added ⊢
      obtain ⟨total, sum, cents_eq⟩ := Decimal.cents_add isSum isCost small
      simp only [Tally.addCost, reads, sum] at added
      cases added
      dsimp only
      omega

theorem cents_addAll {tally total : Tally} {quotes : List Quote}
    (isSum : Decimal.IsCostSum tally.cost) (arePriced : ∀ quote ∈ quotes, quote.IsPriced)
    (small : tally.cost.cents.natAbs + (quotes.map Quote.hundredths).sum < 10 ^ 28)
    (added : Engine.addAll tally quotes = (.ok (), total)) :
    total.cost.cents.natAbs ≤ tally.cost.cents.natAbs + (quotes.map Quote.hundredths).sum := by
  induction quotes generalizing tally with
  | nil =>
      cases added
      exact Nat.le_refl _
  | cons quote quotes ih =>
      rw [List.forall_mem_cons] at arePriced
      rw [List.map_cons, List.sum_cons] at small ⊢
      obtain ⟨between, first, isBetween⟩ := add_of_isPriced isSum arePriced.1
      have bound := cents_add_quote isSum arePriced.1 (by omega) first
      simp only [Engine.addAll, first] at added
      have rest := ih isBetween arePriced.2 (by omega) added
      omega

theorem addAll_append {tally between : Tally} {quotes : List Quote} (more : List Quote)
    (added : Engine.addAll tally quotes = (.ok (), between)) :
    Engine.addAll tally (quotes ++ more) = Engine.addAll between more := by
  induction quotes generalizing tally with
  | nil =>
      cases added
      rfl
  | cons quote quotes ih =>
      simp only [List.cons_append, Engine.addAll] at added ⊢
      rcases first : tally.add quote with ⟨fault | _, next⟩
      · rw [first] at added
        cases added
      · rw [first] at added
        exact ih added

/-! ## Writing a total -/

theorem build_of_isCostSum {tally : Tally} (rate : Binary64) (isSum : Decimal.IsCostSum tally.cost) :
    (tally.cost.cents.natAbs < 10 ^ 28 → ∃ quote, tally.build rate = .ok quote) ∧
      (10 ^ 28 ≤ tally.cost.cents.natAbs → tally.build rate = .error (.arithmetic .invalid)) := by
  obtain ⟨short, long⟩ := Decimal.quantize_of_isCostSum .halfEven isSum
  unfold Tally.build
  constructor
  · intro small
    obtain ⟨written, done⟩ := short small
    rw [done]
    exact ⟨_, rfl⟩
  · intro great
    rw [long great]
    rfl

namespace Engine

variable {σ : Type} {engine : Engine σ}

/-- A tally is the sum of the quotes in it. -/
structure Adds (tally : Tally) : Prop where
  added : addAll .empty tally.quotes = (.ok (), tally)
  isSum : Decimal.IsCostSum tally.cost
  arePriced : ∀ quote ∈ tally.quotes, quote.IsPriced

theorem adds_empty : Adds .empty := ⟨rfl, isCostSum_empty, List.forall_mem_nil _⟩

theorem Adds.addAll {tally total : Tally} {quotes : List Quote} (adds : Adds tally)
    (arePriced : ∀ quote ∈ quotes, quote.IsPriced) (added : addAll tally quotes = (.ok (), total)) :
    Adds total := by
  have quotes_eq := quotes_addAll added
  constructor
  · rw [quotes_eq, addAll_append quotes adds.added, added]
  · obtain ⟨after, same, isSum⟩ := addAll_of_isPriced adds.isSum arePriced
    cases added.symm.trans same
    exact isSum
  · rw [quotes_eq]
    exact List.forall_mem_append.mpr ⟨adds.arePriced, arePriced⟩

theorem Adds.cents_lt {tally : Tally} (adds : Adds tally)
    (small : (tally.quotes.map Quote.hundredths).sum < 10 ^ 28) :
    tally.cost.cents.natAbs < 10 ^ 28 := by
  have nothing : Tally.empty.cost.cents.natAbs = 0 := rfl
  have bound := cents_addAll isCostSum_empty adds.arePriced (by omega) adds.added
  omega

theorem Survey.adds {plan : Plan} {location : Location} {tally : Tally} {world : World σ}
    {result : Tally × World σ} (survey : engine.Survey plan location tally world result)
    (adds : Adds tally) : Adds result.1 := by
  induction survey with
  | exhausted _ _ => exact adds
  | went _ added _ ih => exact ih (adds.addAll (engine.isPriced_quoteStepSafely _ _ _) added)

/-- A dry run ends with a tally of what its visits came to. -/
theorem tallies_quoteFlow (engine : Engine σ) (rate : Binary64) {nodes : List Node} {node : Node}
    {start : Start} (runnable : Graph.requireRunnable nodes = .ok (node, start)) (edges : List Edge)
    (world : World σ) :
    ∃ tally, Adds tally ∧ (engine.quoteFlow rate nodes edges world).1 = tally.build rate ∧
      tally.quotes = (engine.quoteFlowVisits rate nodes edges world).1.flatMap (·.results) := by
  have ready := Plan.ready_of_runnable runnable edges
  obtain ⟨⟨tally, after⟩, goes, survey⟩ := engine.survey_quoteSteps
    ((Graph.order nodes edges).length + 1) (.ofStart start) world (Nat.lt_succ_self _) ready
    isCostSum_empty
  have lists := engine.lists_quoteVisits ((Graph.order nodes edges).length + 1) (.ofStart start)
    .empty world ready
  rw [engine.quoteVisits_snd, goes] at lists
  refine ⟨tally, survey.adds adds_empty, ?_, ?_⟩
  · simp only [quoteFlow, runnable, goes]
  · rw [engine.quoteFlowVisits_fst runnable]
    exact lists.quotes tally rfl

/-- How a dry run of a drawing that can be run ends: with the quotes of its visits added up, if the
total is short enough to be written. -/
structure Concludes (engine : Engine σ) (rate : Binary64) (nodes : List Node) (edges : List Edge)
    (world : World σ) (tally : Tally) : Prop where
  quotes_eq : tally.quotes = (engine.quoteFlowVisits rate nodes edges world).1.flatMap (·.results)
  added : addAll .empty tally.quotes = (.ok (), tally)
  built : (engine.quoteFlow rate nodes edges world).1 = tally.build rate
  written : tally.cost.cents.natAbs < 10 ^ 28 →
    ∃ quote, (engine.quoteFlow rate nodes edges world).1 = .ok quote
  unwritten : 10 ^ 28 ≤ tally.cost.cents.natAbs →
    (engine.quoteFlow rate nodes edges world).1 = .error (.arithmetic .invalid)
  bounded : (tally.quotes.map Quote.hundredths).sum < 10 ^ 28 → tally.cost.cents.natAbs < 10 ^ 28

/-- Two bridges that cost five times 10 to the 25th each, and a little more. -/
def costlyNodes : List Node :=
  [Sample.start "s" 84532, Sample.bridge "a" 11155111 "20000000000000000000000000000",
    Sample.bridge "b" 84532 "20000000000000000000000000000"]

def costlyEdges : List Edge := [Sample.edge "s" "a", Sample.edge "a" "b"]

def localEngine : Engine Unit := { Sample.engine with backend := none }

end Engine

end ChainFlow

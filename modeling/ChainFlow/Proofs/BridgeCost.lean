import ChainFlow.Proofs.Cost
import ChainFlow.Proofs.Decimal.Monotone
import ChainFlow.Proofs.Sample
import ChainFlow.Proofs.World.Act

/-!
# What a bridge costs

The estimated cost of a bridge grows with its amount, however amounts are written: where there is an
estimate for an amount there is one for every lesser amount, and it costs at most as much
(`estimateBridge_mono`).
-/

namespace ChainFlow

open Decimal

namespace Amount

/-- Both texts are costs, and the first is at most the second. -/
def CostsAtMost (lesser greater : String) : Prop :=
  ∃ first second, Decimal.parse lesser.toList = .ok first ∧ Decimal.parse greater.toList = .ok second ∧
    first.isAmount = true ∧ second.isAmount = true ∧ first.value ≤ second.value

/-- What a written cost reads as. -/
theorem parse_of_formatCost {cost : Decimal} (isAmount : cost.isAmount = true) {text : String}
    (written : formatCost cost = .ok text) :
    hundredths cost.value < 10 ^ precision ∧
      ∃ reading, Decimal.parse text.toList = .ok reading ∧ reading.isAmount = true ∧
        reading.value = hundredths cost.value * 10 ^ (-2 : Int) := by
  obtain ⟨negative, coefficient, exponent, rfl, sign⟩ := finite_of_isAmount isAmount
  obtain ⟨fits, exceeds⟩ := quantize_halfUp negative coefficient exponent
  rw [value_of_isAmount exponent sign]
  unfold formatCost at written
  by_cases small : hundredths (coefficient * 10 ^ exponent) < 10 ^ precision
  · have sign' : negative = false ∨ hundredths ((coefficient : ℚ) * 10 ^ exponent) = 0 := by
      refine sign.imp_right fun zero => ?_
      rw [zero, Nat.cast_zero, zero_mul, hundredths_zero]
    rw [fits small] at written
    cases written
    refine ⟨small, _, parse_toText (.amount negative small), ?_, value_of_isAmount _ sign'⟩
    simpa [Decimal.isAmount] using sign'
  · rw [exceeds (Nat.not_lt.mp small)] at written
    cases written

theorem formatCost_of_lt {cost : Decimal} (isAmount : cost.isAmount = true)
    (small : hundredths cost.value < 10 ^ precision) : ∃ text, formatCost cost = .ok text := by
  obtain ⟨negative, coefficient, exponent, rfl, sign⟩ := finite_of_isAmount isAmount
  rw [value_of_isAmount exponent sign] at small
  unfold formatCost
  rw [(quantize_halfUp negative coefficient exponent).1 small]
  exact ⟨_, rfl⟩

theorem formatCost_mono {first second : Decimal} (ordered : Ordered first second) {greater : String}
    (written : formatCost second = .ok greater) :
    ∃ lesser, formatCost first = .ok lesser ∧ CostsAtMost lesser greater := by
  have order := hundredths_mono ordered.le
  obtain ⟨small, y, readsY, isY, valueY⟩ := parse_of_formatCost ordered.second written
  obtain ⟨lesser, writtenToo⟩ := formatCost_of_lt ordered.first (order.trans_lt small)
  obtain ⟨_, x, readsX, isX, valueX⟩ := parse_of_formatCost ordered.first writtenToo
  refine ⟨lesser, writtenToo, x, y, readsX, readsY, isX, isY, ?_⟩
  rw [valueX, valueY]
  exact mul_le_mul_of_nonneg_right (Nat.cast_le.mpr order) (ten_zpow_pos _).le

end Amount

namespace Engine

theorem bridgeCostOf_eq_ok_iff {base : Decimal} {amount : Json} {text : String} :
    bridgeCostOf base amount = .ok text ↔ ∃ entered hundreds part factor cost,
      Amount.parse amount = .ok entered ∧ entered.hundredth = .ok hundreds ∧
      hundreds.mul (.finite false 1 (-1)) = .ok part ∧ (ofNat 1).add part = .ok factor ∧
      base.mul factor = .ok cost ∧ Amount.formatCost cost = .ok text := by
  constructor
  · intro done
    obtain ⟨entered, parsed, done⟩ := Except.bind_eq_ok done
    obtain ⟨hundreds, divided, done⟩ := Except.bind_eq_ok done
    obtain ⟨part, scaled, done⟩ := Except.bind_eq_ok (ofSignal_eq_ok done)
    obtain ⟨factor, added, done⟩ := Except.bind_eq_ok done
    obtain ⟨cost, multiplied, done⟩ := Except.bind_eq_ok done
    exact ⟨entered, hundreds, part, factor, cost, parsed, ofSignal_eq_ok divided, scaled, added,
      multiplied, done⟩
  · rintro ⟨entered, hundreds, part, factor, cost, parsed, divided, scaled, added, multiplied, written⟩
    simp only [bridgeCostOf, parsed, bind, Except.bind, divided, ofSignal, scaled, added, multiplied,
      written]

/-- Every operation of the estimate keeps the order of the two amounts. -/
theorem bridgeCostOf_mono {base : Decimal} (isBase : base.isAmount = true) {first second : Json}
    {x y : Decimal} (readsX : Amount.parse first = .ok x) (readsY : Amount.parse second = .ok y)
    (le : x.value ≤ y.value) {greater : String} (done : bridgeCostOf base second = .ok greater) :
    ∃ lesser, bridgeCostOf base first = .ok lesser ∧ Amount.CostsAtMost lesser greater := by
  obtain ⟨entered, hundredsY, partY, factorY, costY, parsed, dividedY, scaledY, addedY, multipliedY,
    writtenY⟩ := bridgeCostOf_eq_ok_iff.mp done
  cases readsY.symm.trans parsed
  have ordered : Ordered x y := ⟨Amount.isAmount_of_parse readsX, Amount.isAmount_of_parse readsY, le⟩
  obtain ⟨hundredsX, dividedX, orderedHundreds⟩ := hundredth_mono ordered dividedY
  obtain ⟨partX, scaledX, orderedPart, shortX, shortY⟩ :=
    mul_mono orderedHundreds (.refl rfl) scaledY
  obtain ⟨factorX, addedX, orderedFactor⟩ := one_add_mono orderedPart shortX shortY addedY
  obtain ⟨costX, multipliedX, orderedCost, _⟩ := mul_mono (.refl isBase) orderedFactor multipliedY
  obtain ⟨lesser, writtenX, atMost⟩ := Amount.formatCost_mono orderedCost writtenY
  exact ⟨lesser, bridgeCostOf_eq_ok_iff.mpr ⟨x, hundredsX, partX, factorX, costX, readsX, dividedX,
    scaledX, addedX, multipliedX, writtenX⟩, atMost⟩

/-! ## Estimates -/

theorem estimateBridge_eq_ok_iff {σ : Type} {engine : Engine σ} {amount : Json} {world : World σ}
    {cost : String} {seconds : Int} :
    ((engine.estimateBridge amount).runIn world).1 = .ok (cost, seconds) ↔
      bridgeCostOf engine.bridgeCost amount = .ok cost ∧
        bridgeRange.point (engine.draw world.drawn) = seconds := by
  unfold estimateBridge
  rcases estimated : bridgeCostOf engine.bridgeCost amount with fault | text
  · rw [Act.runIn_bind_error (Act.runIn_ofExcept _ _)]
    exact iff_of_false nofun nofun
  · rw [Act.runIn_bind_ok (Act.runIn_ofExcept _ _)]
    change Except.ok (text, bridgeRange.point (engine.draw world.drawn)) = .ok (cost, seconds) ↔ _
    rw [Except.ok.injEq, Except.ok.injEq, Prod.mk.injEq]

/-- Whatever numbers are drawn, and in whatever worlds. -/
theorem estimateBridge_mono {σ τ : Type} {engine : Engine σ} {engine' : Engine τ}
    (isBase : engine.bridgeCost.isAmount = true) (sameBase : engine'.bridgeCost = engine.bridgeCost)
    {first second : Json} {x y : Decimal} (readsX : Amount.parse first = .ok x)
    (readsY : Amount.parse second = .ok y) (le : x.value ≤ y.value) {world' : World τ}
    {greater : String} {seconds' : Int}
    (done : ((engine'.estimateBridge second).runIn world').1 = .ok (greater, seconds'))
    (world : World σ) :
    ∃ lesser seconds, ((engine.estimateBridge first).runIn world).1 = .ok (lesser, seconds) ∧
      Amount.CostsAtMost lesser greater := by
  obtain ⟨costs, _⟩ := estimateBridge_eq_ok_iff.mp done
  rw [sameBase] at costs
  obtain ⟨lesser, costsToo, atMost⟩ := bridgeCostOf_mono isBase readsX readsY le costs
  exact ⟨lesser, _, estimateBridge_eq_ok_iff.mpr ⟨costsToo, rfl⟩, atMost⟩

theorem estimateBridge_mono_notations :
    let halves : Engine Unit := { Sample.engine with draw := fun _ => .finite false (2 ^ 52) (-53) }
    Amount.parse (.str "033.30") = .ok (.finite false 3330 (-2)) ∧
      Amount.parse (.str "1E+2") = .ok (.finite false 1 2) ∧
      ((halves.estimateBridge (.str "1E+2")).runIn (World.fresh 5 ())).1 = .ok ("2.75", 30) ∧
      ∃ lesser seconds,
        ((Sample.engine.estimateBridge (.str "033.30")).runIn (World.fresh 0 ())).1 =
          .ok (lesser, seconds) ∧ Amount.CostsAtMost lesser "2.75" := by
  intro halves
  have readsX : Amount.parse (.str "033.30") = .ok (.finite false 3330 (-2)) := rfl
  have readsY : Amount.parse (.str "1E+2") = .ok (.finite false 1 2) := rfl
  have le : (Decimal.finite false 3330 (-2)).value ≤ (Decimal.finite false 1 2).value := by
    rw [value_of_isAmount _ (.inl rfl), value_of_isAmount _ (.inl rfl)]
    norm_num
  have done : ((halves.estimateBridge (.str "1E+2")).runIn (World.fresh 5 ())).1 = .ok ("2.75", 30) :=
    estimateBridge_eq_ok_iff.mpr ⟨rfl, by decide +kernel⟩
  exact ⟨readsX, readsY, done, @estimateBridge_mono Unit Unit Sample.engine halves rfl rfl _ _ _ _
    readsX readsY le _ _ _ done (World.fresh 0 ())⟩

end Engine

end ChainFlow

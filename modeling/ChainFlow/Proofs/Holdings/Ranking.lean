import ChainFlow.Proofs.Decimal.Fitting
import ChainFlow.Proofs.Holdings.Totals
import Mathlib.Data.List.Sort

/-!
# The order of holdings

The holdings of a user are the assets that were reported, the most valuable first and equal ones as
they came, and their total is the sum of what they are worth (`Conserves`). This is so if the assets
are worth finite amounts of which no sum has to be rounded (`conserves_of_addUp`).
-/

namespace ChainFlow

open Decimal (IsWithin)

/-- An amount of money that is not too small for its digits and not too large to be added up. -/
structure Decimal.IsPrice (x : Decimal) : Prop where
  exact : x.StandsFor x.value
  within : IsWithin 310 x

/-! ## Worth -/

/-- The decimal number that a number of the machine is written as. -/
def Binary64.written : Binary64 → ℚ
  | .finite negative mantissa exponent =>
    Decimal.signed negative (shortest mantissa exponent).1 * 10 ^ (shortest mantissa exponent).2
  | _ => 0

/-- What a share of an asset is reported to be worth, nothing if that is not told. -/
def ChainShare.worth (share : ChainShare) : ℚ := share.fiat.elim 0 Binary64.written

def Asset.worth (asset : Asset) : ℚ := asset.fiat.elim 0 Binary64.written

def ChainShare.IsPriced (share : ChainShare) : Prop := ∀ value ∈ share.fiat, value.IsFinite

namespace ChainHolding

variable {fiat : Option Binary64}

theorem fiatNumber_standsFor (finite : ∀ value ∈ fiat, value.IsFinite) :
    (fiatNumber fiat).StandsFor (fiat.elim 0 Binary64.written) := by
  cases fiat with
  | none => exact Decimal.standsFor_zero
  | some value =>
      obtain ⟨canonical, negative, mantissa, exponent, rfl⟩ := finite value rfl
      obtain ⟨coefficient, power, reads, least, same⟩ := Decimal.parse_text canonical
      refine ⟨negative, coefficient, power, ?_, ?_, ?_⟩
      · simp only [fiatNumber, number, Decimal.ofString?, String.toList_ofList, reads]
        rfl
      · exact le_trans (by decide) least
      · cases negative <;> simpa [Decimal.signed, Binary64.written] using same

theorem isPrice_fiatNumber (finite : ∀ value ∈ fiat, value.IsFinite) :
    (fiatNumber fiat).IsPrice where
  exact := by
    have stands := fiatNumber_standsFor finite
    rwa [stands.value_eq]
  within := isWithin_fiatNumber finite

end ChainHolding

namespace Holdings

/-! ## Adding up -/

section
variable {total : Decimal} {before : ℚ} (start : total.StandsFor before)
  (bounded : IsWithin 400 total)
include start bounded

theorem add_of_isPrice {value : Decimal} (price : value.IsPrice)
    (fits : Decimal.Fits (before + value.value)) :
    ∃ next, total.add value = .ok next ∧ next.StandsFor (before + value.value) ∧
      IsWithin 400 next := by
  obtain ⟨next, added, within⟩ := Decimal.isWithin_add (by decide) (by decide) bounded
    (price.within.mono (by decide))
  exact ⟨next, added, Decimal.add_standsFor start price.exact fits added, within⟩

theorem sum_of_isPrice {values : List Decimal} (prices : ∀ value ∈ values, value.IsPrice)
    (fits : ∀ part, part <+: values.map Decimal.value → Decimal.Fits (before + part.sum)) :
    ∃ result, sum total values = .ok result ∧
      result.StandsFor (before + (values.map Decimal.value).sum) := by
  induction values generalizing total before with
  | nil => exact ⟨total, rfl, by simpa using start⟩
  | cons value rest ih =>
      obtain ⟨price, others⟩ := List.forall_mem_cons.mp prices
      have one : Decimal.Fits (before + value.value) := by
        simpa using fits [value.value] ⟨_, rfl⟩
      have onward : ∀ part, part <+: rest.map Decimal.value →
          Decimal.Fits (before + value.value + part.sum) := by
        intro part inside
        rw [add_assoc, ← List.sum_cons]
        exact fits _ ((List.prefix_cons_inj value.value).mpr inside)
      obtain ⟨next, added, exact, within⟩ := add_of_isPrice start bounded price one
      obtain ⟨result, summed, stands⟩ := ih exact within others onward
      refine ⟨result, ?_, ?_⟩
      · simp only [sum, added]
        exact summed
      · rwa [add_assoc, ← List.sum_cons] at stands

end

/-! ## Putting in order -/

/-- Whether the first of two holdings is worth a number that is not less than the second. -/
def isAtLeast (a b : Holding) : Bool := b.fiat.value ≤ a.fiat.value

theorem isAtLeast_iff {a b : Holding} : isAtLeast a b = true ↔ b.fiat.value ≤ a.fiat.value :=
  decide_eq_true_iff

theorem isAtLeast_trans (a b c : Holding) (first : isAtLeast a b = true)
    (second : isAtLeast b c = true) : isAtLeast a c = true :=
  isAtLeast_iff.mpr ((isAtLeast_iff.mp second).trans (isAtLeast_iff.mp first))

theorem isAtLeast_total (a b : Holding) : (isAtLeast a b || isAtLeast b a) = true := by
  rw [Bool.or_eq_true, isAtLeast_iff, isAtLeast_iff]
  exact le_total _ _

variable {tokens : List Holding}

theorem ranked_of_isPrice (prices : ∀ token ∈ tokens, token.fiat.IsPrice) :
    ranked tokens = .ok (tokens.mergeSort isAtLeast) := by
  have comparable : ∀ token ∈ tokens, (token.fiat.lt? token.fiat).isNone = false :=
    fun token member => (prices token member).within.lt?_self
  have alike : ∀ a ∈ tokens, ∀ b ∈ tokens, isWorth a b = isAtLeast (id a) (id b) := by
    intro a one b other
    rw [isWorth, Decimal.lt?_of_standsFor (prices a one).exact (prices b other).exact,
      Option.getD_some, ← decide_not]
    simp only [not_lt, id, isAtLeast]
  have same : (tokens.mergeSort isWorth).map id = (tokens.map id).mergeSort isAtLeast :=
    List.map_mergeSort alike
  rw [List.map_id, List.map_id] at same
  rw [ranked_of_comparable comparable, same]

theorem pairwise_mergeSort (tokens : List Holding) :
    (tokens.mergeSort isAtLeast).Pairwise fun a b => b.fiat.value ≤ a.fiat.value :=
  (List.pairwise_mergeSort isAtLeast_trans isAtLeast_total tokens).imp isAtLeast_iff.mp

/-- Holdings that are worth the same stay as they were. -/
theorem filter_mergeSort (tokens : List Holding) (worth : ℚ) :
    (tokens.mergeSort isAtLeast).filter (·.fiat.value = worth) =
      tokens.filter (·.fiat.value = worth) := by
  have alike : (tokens.filter (·.fiat.value = worth)).Pairwise fun a b => isAtLeast a b = true := by
    refine List.pairwise_of_forall_mem_list fun a one b other => isAtLeast_iff.mpr ?_
    have first : a.fiat.value = worth := by simpa using List.of_mem_filter one
    have second : b.fiat.value = worth := by simpa using List.of_mem_filter other
    rw [first, second]
  -- they are in order already, so that sorting leaves them one after the other
  have inside := (List.sublist_mergeSort isAtLeast_trans isAtLeast_total alike
    List.filter_sublist).filter (·.fiat.value = worth)
  simp only [List.filter_filter, Bool.and_self] at inside
  have perm := (List.mergeSort_perm tokens isAtLeast).filter (·.fiat.value = worth)
  exact (inside.eq_of_length perm.length_eq.symm).symm

/-! ## Holdings of assets -/

/-- Assets that are worth finite amounts, and so are their shares, and of which no sum has too many
digits: neither one over assets nor one over the shares on a chain. -/
structure AddUp (assets : List Asset) : Prop where
  priced : ∀ asset ∈ assets, asset.IsPriced
  shared : ∀ asset ∈ assets, ∀ share ∈ asset.shares, share.IsPriced
  whole : Decimal.AddUp (assets.map Asset.worth)
  parts : ∀ chain, Decimal.AddUp
    (((assets.flatMap (·.shares)).filter (·.chain = chain)).map ChainShare.worth)

/-- Holdings that are some assets in order, with all that is reported of them. -/
structure Conserves (held : Holdings) (assets : List Asset) : Prop where
  perm : held.tokens.Perm (assets.map Holding.ofAsset)
  ordered : held.tokens.Pairwise fun a b => b.fiat.value ≤ a.fiat.value
  stable : ∀ worth : ℚ, held.tokens.filter (·.fiat.value = worth) =
    (assets.map Holding.ofAsset).filter (·.fiat.value = worth)
  total : held.fiat.StandsFor (held.tokens.map (·.fiat.value)).sum
  entries : (held.tokens.flatMap (·.chains)).Perm
    ((assets.flatMap (·.shares)).map ChainHolding.ofShare)
  priced : ∀ asset ∈ assets, (Holding.ofAsset asset).fiat.StandsFor asset.worth ∧
    ∀ share ∈ asset.shares, (ChainHolding.ofShare share).fiat.StandsFor share.worth

variable {assets : List Asset}

/-- The total is what the assets are worth together. -/
theorem Conserves.fiat_standsFor {held : Holdings} (conserves : held.Conserves assets) :
    held.fiat.StandsFor (assets.map Asset.worth).sum := by
  have values : (held.tokens.map (·.fiat.value)).sum = (assets.map Asset.worth).sum := by
    rw [(conserves.perm.map _).sum_eq, List.map_map]
    exact congrArg List.sum
      (List.map_congr_left fun asset member => (conserves.priced asset member).1.value_eq)
  exact values ▸ conserves.total

theorem sum_worths (addUp : AddUp assets) : ∃ total,
    sum (.ofNat 0) (worths assets) = .ok total ∧
      total.StandsFor ((worths assets).map Decimal.value).sum := by
  have values : (worths assets).map Decimal.value = assets.map Asset.worth := by
    rw [worths, List.map_map]
    exact List.map_congr_left fun asset member =>
      (ChainHolding.fiatNumber_standsFor (addUp.priced asset member)).value_eq
  have prices : ∀ value ∈ worths assets, value.IsPrice :=
    List.forall_mem_map.mpr fun asset member =>
      ChainHolding.isPrice_fiatNumber (addUp.priced asset member)
  obtain ⟨total, summed, stands⟩ := sum_of_isPrice Decimal.standsFor_zero
    (Decimal.isWithin_zero 400 false 0) prices fun part inside => by
      rw [zero_add]
      exact addUp.whole part (values ▸ inside.sublist)
  exact ⟨total, summed, by rwa [zero_add] at stands⟩

theorem conserves_of_addUp (addUp : AddUp assets) (user : Option String) (now : Int) :
    ∃ held, ofAssets user now assets = .ok held ∧ held.Conserves assets := by
  obtain ⟨total, summed, stands⟩ := sum_worths addUp
  have prices : ∀ token ∈ assets.map Holding.ofAsset, token.fiat.IsPrice :=
    List.forall_mem_map.mpr fun asset member =>
      ChainHolding.isPrice_fiatNumber (addUp.priced asset member)
  generalize tokens_eq : (assets.map Holding.ofAsset).mergeSort isAtLeast = tokens
  have perm : tokens.Perm (assets.map Holding.ofAsset) := tokens_eq ▸ List.mergeSort_perm _ _
  refine ⟨⟨user, total, tokens, now.tdiv 1000⟩, ?_, perm, ?_, ?_, ?_, ?_, ?_⟩
  · rw [ofAssets_eq, summed, ranked_of_isPrice prices, tokens_eq]
    rfl
  · exact tokens_eq ▸ pairwise_mergeSort _
  · exact tokens_eq ▸ filter_mergeSort _
  · have same := (perm.map (·.fiat.value)).sum_eq
    rw [List.map_map] at same
    rw [same]
    rw [worths, List.map_map] at stands
    exact stands
  · have same := perm.flatMap_right (·.chains)
    rw [List.flatMap_map] at same
    rw [List.map_flatMap]
    exact same
  · intro asset member
    exact ⟨ChainHolding.fiatNumber_standsFor (addUp.priced asset member), fun share there =>
      ChainHolding.fiatNumber_standsFor (addUp.shared asset member share there)⟩

end Holdings

end ChainFlow

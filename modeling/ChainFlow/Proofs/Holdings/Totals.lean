import ChainFlow.Holdings
import ChainFlow.Proofs.Decimal.Bounded
import ChainFlow.Proofs.Estimate
import ChainFlow.Proofs.Result

/-!
# Totals of holdings

What is reported to be worth a finite amount can be added up and put in order, however much of it there
is (`ofAssets_of_isPriced`).
-/

namespace ChainFlow

open Decimal (IsWithin)

namespace Binary64

/-- A number that is not infinite, and that there is. -/
structure IsFinite (x : Binary64) : Prop where
  canonical : x.IsCanonical
  finite : ∃ negative mantissa exponent, x = .finite negative mantissa exponent

end Binary64

namespace ChainHolding

/-- How large the worth of a single holding can be. -/
theorem isWithin_fiatNumber {fiat : Option Binary64} (finite : ∀ value ∈ fiat, value.IsFinite) :
    IsWithin 310 (fiatNumber fiat) := by
  have zero : IsWithin 310 (Decimal.ofNat 0) := Decimal.isWithin_zero 310 false 0
  cases fiat with
  | none => exact zero
  | some value =>
      obtain ⟨negative, mantissa, exponent, rfl⟩ := (finite value rfl).finite
      have canonical := (finite _ rfl).canonical
      have small := Binary64.shortest_lt canonical.positive
      obtain ⟨coefficient, power, reads, _, same⟩ := Decimal.parse_text canonical
      simp only [fiatNumber, number, Decimal.ofString?, String.toList_ofList, reads]
      exact .finite negative (same ▸ small.le)

end ChainHolding

/-! ## Holdings -/

/-- An asset that is worth a finite amount, or of which the worth is not told. -/
def Asset.IsPriced (asset : Asset) : Prop := ∀ value ∈ asset.fiat, value.IsFinite

namespace Holdings

theorem sum_of_isWithin {total : Decimal} {values : List Decimal} (start : IsWithin 400 total)
    (all : ∀ value ∈ values, IsWithin 310 value) :
    ∃ result, sum total values = .ok result ∧ IsWithin 400 result := by
  induction values generalizing total with
  | nil => exact ⟨total, rfl, start⟩
  | cons value rest ih =>
      obtain ⟨next, added, within⟩ := Decimal.isWithin_add (by decide) (by decide) start
        ((all value List.mem_cons_self).mono (by decide))
      obtain ⟨result, summed, bounded⟩ :=
        ih within fun other member => all other (List.mem_cons_of_mem value member)
      refine ⟨result, ?_, bounded⟩
      simp only [sum, added]
      exact summed

/-- Holdings that are each worth a number can be put in order. -/
theorem ranked_of_comparable {tokens : List Holding}
    (comparable : ∀ token ∈ tokens, (token.fiat.lt? token.fiat).isNone = false) :
    ranked tokens = .ok (tokens.mergeSort isWorth) := by
  have none_odd : tokens.any (fun token => (token.fiat.lt? token.fiat).isNone) = false := by
    rw [List.any_eq_false]
    intro token member
    rw [comparable token member]
    exact Bool.false_ne_true
  unfold ranked
  rw [none_odd, if_neg (by simp)]

def worths (assets : List Asset) : List Decimal :=
  assets.map fun asset => ChainHolding.fiatNumber asset.fiat

theorem ofAssets_eq (user : Option String) (now : Int) (assets : List Asset) :
    ofAssets user now assets =
      match sum (.ofNat 0) (worths assets) with
      | .ok fiat => (ranked (assets.map Holding.ofAsset)).map fun tokens =>
          ⟨user, fiat, tokens, now.tdiv 1000⟩
      | .error fault => .error fault := by
  unfold ofAssets
  dsimp only
  rw [List.map_map]
  show (sum (.ofNat 0) (worths assets) >>= _) = _
  cases sum (.ofNat 0) (worths assets) with
  | error fault => rfl
  | ok fiat => cases ranked (assets.map Holding.ofAsset) <;> rfl

theorem ofAssets_of_isPriced {assets : List Asset} (priced : ∀ asset ∈ assets, asset.IsPriced)
    (user : Option String) (now : Int) : ∃ holdings, ofAssets user now assets = .ok holdings := by
  have within : ∀ asset ∈ assets, IsWithin 310 (ChainHolding.fiatNumber asset.fiat) :=
    fun asset member => ChainHolding.isWithin_fiatNumber (priced asset member)
  have start : IsWithin 400 (Decimal.ofNat 0) := Decimal.isWithin_zero 400 false 0
  obtain ⟨fiat, summed, _⟩ := sum_of_isWithin start (List.forall_mem_map.mpr within)
  have comparable : ∀ token ∈ assets.map Holding.ofAsset,
      (token.fiat.lt? token.fiat).isNone = false :=
    List.forall_mem_map.mpr fun asset member => (within asset member).lt?_self
  rw [ofAssets_eq, worths, summed, ranked_of_comparable comparable]
  exact ⟨_, rfl⟩

/-- Holdings carry the user and the time that they were made with. -/
theorem stamped_of_ofAssets {user : Option String} {now : Int} {assets : List Asset}
    {holdings : Holdings} (totals : ofAssets user now assets = .ok holdings) :
    holdings.user = user ∧ holdings.taken = now.tdiv 1000 := by
  obtain ⟨fiat, _, totals⟩ := Except.bind_eq_ok totals
  obtain ⟨tokens, _, totals⟩ := Except.bind_eq_ok totals
  cases totals
  exact ⟨rfl, rfl⟩

end Holdings

end ChainFlow

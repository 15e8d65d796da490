import ChainFlow.Proofs.Decimal.Extended
import ChainFlow.Proofs.Holdings.Keeping

/-!
# Holdings that cannot be told

A backend can report any floating-point number as the worth of an asset, also an infinity and what is
no number. Two assets go with each other (`Asset.GoesWith`) if neither is worth what is no number and
they are not worth infinities of opposite signs. The holdings of a user are told unless two of the
reported assets do not go with each other, whatever else is reported and however the backend fails
(`holdings_eq_error_iff`).
-/

namespace ChainFlow

open Decimal (IsExtended IsQuiet IsWithin Opposes)

/-! ## Sums -/

namespace Holdings

/-- A sum without what is no number fails exactly if two of its terms oppose each other. -/
theorem sum_eq_error_iff {total : Decimal} {values : List Decimal} {fault : Fault}
    (start : IsExtended 400 total) (all : ∀ value ∈ values, IsExtended 310 value) :
    sum total values = .error fault ↔
      fault = .arithmetic .invalid ∧ ¬ (total :: values).Pairwise fun a b => ¬ Opposes a b := by
  induction values generalizing total with
  | nil => simp [sum]
  | cons value rest ih =>
      obtain ⟨extended, others⟩ := List.forall_mem_cons.mp all
      by_cases opposed : Opposes total value
      · simp [sum, Decimal.add_of_opposes opposed, opposed, eq_comm]
      · have small : IsExtended (400 - 29) value := extended.mono (by decide)
        obtain ⟨next, added, kept, opposes⟩ :=
          Decimal.add_of_not_opposes (by decide) (by decide) start small opposed
        -- the sum stands for both of its terms from here on
        have same : (next :: rest).Pairwise (fun a b => ¬ Opposes a b) ↔
            (total :: value :: rest).Pairwise fun a b => ¬ Opposes a b := by
          simp only [List.pairwise_cons, List.forall_mem_cons, opposes, not_or, forall_and]
          tauto
        simp only [sum, added]
        rw [ih kept others, same]

theorem sum_of_isQuiet {total : Decimal} {values : List Decimal} (start : IsQuiet 400 total)
    (all : ∀ value ∈ values, IsQuiet 310 value) :
    sum total values = .error (.arithmetic .invalid) ∨ ∃ result, sum total values = .ok result := by
  induction values generalizing total with
  | nil => exact .inr ⟨total, rfl⟩
  | cons value rest ih =>
      obtain ⟨quiet, others⟩ := List.forall_mem_cons.mp all
      have small : IsQuiet (400 - 29) value := quiet.mono (by decide)
      rcases Decimal.add_of_isQuiet (by decide) (by decide) start small with failed | ⟨next, added, kept⟩
      · exact .inl (by simp only [sum, failed])
      · simp only [sum, added]
        exact ih kept others

end Holdings

/-! ## The worth of an asset -/

/-- An asset that is worth a number of the machine, in its one representation, or of which the worth
is not told. -/
def Asset.IsCanonical (asset : Asset) : Prop := ∀ value ∈ asset.fiat, value.IsCanonical

/-- Whether the worths of two assets can be added up and compared. -/
structure Asset.GoesWith (first second : Asset) : Prop where
  first_ne : first.fiat ≠ some .nan
  second_ne : second.fiat ≠ some .nan
  alike : ∀ negative, first.fiat = some (.infinite negative) →
    second.fiat ≠ some (.infinite !negative)

namespace ChainHolding

variable {fiat : Option Binary64}

theorem fiatNumber_nan : fiatNumber (some .nan) = .nan false false 0 := by decide

theorem fiatNumber_infinite (negative : Bool) :
    fiatNumber (some (.infinite negative)) = .infinite negative := by
  cases negative <;> decide

theorem isWithin_fiatNumber_finite {negative : Bool} {mantissa : Nat} {exponent : Int}
    (canonical : (Binary64.finite negative mantissa exponent).IsCanonical) :
    IsWithin 310 (fiatNumber (some (.finite negative mantissa exponent))) := by
  refine isWithin_fiatNumber fun value same => ?_
  cases same
  exact ⟨canonical, _, _, _, rfl⟩

theorem isExtended_fiatNumber (canonical : ∀ value ∈ fiat, value.IsCanonical)
    (number : fiat ≠ some .nan) : IsExtended 310 (fiatNumber fiat) := by
  rcases fiat with _ | _ | negative | ⟨negative, mantissa, exponent⟩
  · exact .within (isWithin_fiatNumber nofun)
  · exact absurd rfl number
  · rw [fiatNumber_infinite]
    exact .infinite negative
  · exact .within (isWithin_fiatNumber_finite (canonical _ rfl))

theorem isQuiet_fiatNumber (canonical : ∀ value ∈ fiat, value.IsCanonical) :
    IsQuiet 310 (fiatNumber fiat) := by
  by_cases nan : fiat = some .nan
  · rw [nan, fiatNumber_nan]
    exact .nan false 0
  · exact .extended (isExtended_fiatNumber canonical nan)

theorem fiatNumber_eq_infinite_iff (canonical : ∀ value ∈ fiat, value.IsCanonical) (negative : Bool) :
    fiatNumber fiat = .infinite negative ↔ fiat = some (.infinite negative) := by
  rcases fiat with _ | _ | other | ⟨other, mantissa, exponent⟩
  · simp [fiatNumber, Decimal.ofNat]
  · simp [fiatNumber_nan]
  · simp [fiatNumber_infinite]
  · have within := isWithin_fiatNumber_finite (canonical _ rfl)
    constructor
    · intro infinite
      rw [infinite] at within
      cases within
    · rintro ⟨⟩

end ChainHolding

namespace Asset

variable {first second : Asset}

theorem goesWith_iff (one : first.IsCanonical) (other : second.IsCanonical)
    (first_ne : first.fiat ≠ some .nan) (second_ne : second.fiat ≠ some .nan) :
    first.GoesWith second ↔
      ¬ Opposes (ChainHolding.fiatNumber first.fiat) (ChainHolding.fiatNumber second.fiat) := by
  have opposed : Opposes (ChainHolding.fiatNumber first.fiat) (ChainHolding.fiatNumber second.fiat) ↔
      ∃ negative, first.fiat = some (.infinite negative) ∧
        second.fiat = some (.infinite !negative) := by
    simp only [Opposes, ChainHolding.fiatNumber_eq_infinite_iff one,
      ChainHolding.fiatNumber_eq_infinite_iff other]
  rw [opposed]
  constructor
  · rintro ⟨_, _, alike⟩ ⟨negative, up, down⟩
    exact alike negative up down
  · intro apart
    exact ⟨first_ne, second_ne, fun negative up down => apart ⟨negative, up, down⟩⟩

end Asset

namespace Holdings

variable {assets : List Asset} {user : Option String} {now : Int}

theorem isExtended_zero : IsExtended 400 (.ofNat 0) := .within (Decimal.isWithin_zero 400 false 0)

/-- Assets that are each worth a number are told unless they do not add up. -/
theorem ofAssets_eq_error_iff_of_numbers (canonical : ∀ asset ∈ assets, asset.IsCanonical)
    (numbers : ∀ asset ∈ assets, asset.fiat ≠ some .nan) (fault : Fault) :
    ofAssets user now assets = .error fault ↔
      fault = .arithmetic .invalid ∧ ¬ assets.Pairwise Asset.GoesWith := by
  have extended : ∀ asset ∈ assets, IsExtended 310 (ChainHolding.fiatNumber asset.fiat) :=
    fun asset member => ChainHolding.isExtended_fiatNumber (canonical asset member) (numbers asset member)
  have comparable : ∀ token ∈ assets.map Holding.ofAsset,
      (token.fiat.lt? token.fiat).isNone = false :=
    List.forall_mem_map.mpr fun asset member => (extended asset member).lt?_self
  have pairs : (.ofNat 0 :: worths assets).Pairwise (fun a b => ¬ Opposes a b) ↔
      assets.Pairwise Asset.GoesWith := by
    have zero : ∀ worth ∈ worths assets, ¬ Opposes (.ofNat 0) worth :=
      fun worth _ => Decimal.not_opposes_finite false 0 0 worth
    rw [List.pairwise_cons, and_iff_right zero, worths, List.pairwise_map]
    refine List.Pairwise.iff_of_mem fun {first second} one two => ?_
    exact (Asset.goesWith_iff (canonical _ one) (canonical _ two) (numbers _ one) (numbers _ two)).symm
  have all : ∀ worth ∈ worths assets, IsExtended 310 worth := List.forall_mem_map.mpr extended
  rw [ofAssets_eq, ranked_of_comparable comparable, ← pairs, ← sum_eq_error_iff isExtended_zero all]
  split
  · next summed => simp [summed, Except.map]
  · next failed => simp [failed]

/-- What is worth no number goes with nothing else. -/
theorem pairwise_goesWith_iff {asset : Asset} (member : asset ∈ assets)
    (odd : asset.fiat = some .nan) : assets.Pairwise Asset.GoesWith ↔ assets = [asset] := by
  constructor
  · intro pairs
    match assets, member with
    | [only], member => rw [List.mem_singleton.mp member]
    | first :: second :: rest, member =>
      exfalso
      obtain ⟨ahead, behind⟩ := List.pairwise_cons.mp pairs
      rcases List.mem_cons.mp member with rfl | later
      · exact (ahead second List.mem_cons_self).first_ne odd
      · exact (ahead asset later).second_ne odd
  · rintro rfl
    exact List.pairwise_singleton _ _

theorem ranked_of_odd {asset : Asset} (member : asset ∈ assets) (odd : asset.fiat = some .nan)
    (others : 2 ≤ assets.length) :
    ranked (assets.map Holding.ofAsset) = .error (.arithmetic .invalid) := by
  have incomparable : (assets.map Holding.ofAsset).any
      (fun token => (token.fiat.lt? token.fiat).isNone) = true := by
    refine List.any_eq_true.mpr ⟨_, List.mem_map_of_mem member, ?_⟩
    show ((ChainHolding.fiatNumber asset.fiat).lt? (ChainHolding.fiatNumber asset.fiat)).isNone = true
    rw [odd, ChainHolding.fiatNumber_nan]
    rfl
  unfold ranked
  rw [if_pos ⟨by rwa [List.length_map], incomparable⟩]

/-- An asset that is worth no number is told if it is the only one. -/
theorem ofAssets_eq_error_iff_of_odd {asset : Asset} (canonical : ∀ asset ∈ assets, asset.IsCanonical)
    (member : asset ∈ assets) (odd : asset.fiat = some .nan) (fault : Fault) :
    ofAssets user now assets = .error fault ↔
      fault = .arithmetic .invalid ∧ ¬ assets.Pairwise Asset.GoesWith := by
  rw [pairwise_goesWith_iff member odd, ofAssets_eq]
  match assets, member with
  | [only], member =>
    obtain rfl := List.mem_singleton.mp member
    have worth : sum (.ofNat 0) (worths [asset]) = .ok (.nan false false 0) := by
      simp only [worths, List.map_cons, List.map_nil, odd, ChainHolding.fiatNumber_nan]
      rfl
    simp [worth, ranked, Except.map]
  | first :: second :: rest, member =>
    have quiet : ∀ worth ∈ worths (first :: second :: rest), IsQuiet 310 worth :=
      List.forall_mem_map.mpr fun other there => ChainHolding.isQuiet_fiatNumber (canonical other there)
    rw [ranked_of_odd member odd (by simp)]
    -- the sum may fail too, if there are infinities of both signs
    rcases sum_of_isQuiet (.extended isExtended_zero) quiet with failed | ⟨fiat, summed⟩
    · simp [failed, eq_comm]
    · simp [summed, Except.map, eq_comm]

theorem ofAssets_eq_error_iff (user : Option String) (now : Int)
    (canonical : ∀ asset ∈ assets, asset.IsCanonical) (fault : Fault) :
    ofAssets user now assets = .error fault ↔
      fault = .arithmetic .invalid ∧ ¬ assets.Pairwise Asset.GoesWith := by
  by_cases odd : ∃ asset ∈ assets, asset.fiat = some .nan
  · obtain ⟨asset, member, odd⟩ := odd
    exact ofAssets_eq_error_iff_of_odd canonical member odd fault
  · push Not at odd
    exact ofAssets_eq_error_iff_of_numbers canonical odd fault

end Holdings

/-! ## Asking for a statement -/

namespace Engine

variable {σ : Type} {engine : Engine σ} {lifetime : Int} {fresh : Bool} {kept : Option Holdings}
  {world : World σ}

theorem renewed_fst (engine : Engine σ) (left : Option Holdings) (world : World σ) :
    (engine.renewed left world).1 = (engine.askHoldings.runIn world).1 := by
  unfold renewed
  split
  · next asked => rw [asked]
  · next asked => rw [asked]

theorem askHoldings_eq_error_iff {fault : Fault}
    (canonical : ∀ assets after, engine.assets.runIn world = (.ok assets, after) →
      ∀ asset ∈ assets, asset.IsCanonical) :
    (engine.askHoldings.runIn world).1 = .error fault ↔ fault = .arithmetic .invalid ∧
      ∃ assets after, engine.assets.runIn world = (.ok assets, after) ∧
        ¬ assets.Pairwise Asset.GoesWith := by
  rw [runIn_askHoldings]
  rcases asked : engine.assets.runIn world with ⟨failure | assets, after⟩
  · simp
  · have totals := Holdings.ofAssets_eq_error_iff (engine.userIn world) after.clock
      (canonical assets after asked) fault
    simp only [Prod.mk.injEq, Except.ok.injEq, and_assoc, exists_and_left, exists_eq_left']
    rw [← totals]
    cases Holdings.ofAssets (engine.userIn world) after.clock assets with
    | error failure => simp [Except.map]
    | ok holdings => simp [Except.map]

/-- An engine of which the backend reports two assets, worth what it is told. -/
def holdingTwo (first second : Json) : Engine Unit :=
  let answer := Json.arr [
    .obj [("symbol", .str "A"), ("balance", .str "1"), ("balanceInFiat", first)],
    .obj [("symbol", .str "B"), ("balance", .str "1"), ("balanceInFiat", second)]]
  { Sample.engine with
    backend := some { Sample.backend with answer := fun _ state => (⟨.ok answer, 0⟩, state) } }

end Engine

end ChainFlow

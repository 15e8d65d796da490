import ChainFlow.Proofs.Holdings.Keeping
import ChainFlow.Proofs.Holdings.Ranking
import Mathlib.Algebra.BigOperators.Group.Finset.Piecewise
import Mathlib.Data.Finset.Dedup

/-!
# Worth on each chain

The worth of holdings on each chain is found by adding one entry after another to what is known
(`tallies_addTo`). In the end every chain is there once on which something is held, with the sum of
its entries, whatever their order (`Tallies`). So nothing is lost on the way from the assets that a
backend reports to what is told of them (`worth_conserved`).
-/

namespace ChainFlow

open Decimal (IsWithin)

namespace Holdings

/-- What the entries on a chain are worth together. -/
def worthOn (entries : List ChainHolding) (chain : ChainId) : ℚ :=
  ((entries.filter (·.chain = chain)).map (·.fiat.value)).sum

/-- The chains of some entries, each with the exact sum of its entries. -/
structure Tallies (breakdown : List (ChainId × Decimal)) (entries : List ChainHolding) : Prop where
  distinct : (breakdown.map Prod.fst).Nodup
  chains : ∀ chain, chain ∈ breakdown.map Prod.fst ↔ chain ∈ entries.map (·.chain)
  exact : ∀ place ∈ breakdown, place.2.StandsFor (worthOn entries place.1)

/-! ## Worth on one chain -/

theorem worthOn_cons (entry : ChainHolding) (entries : List ChainHolding) (chain : ChainId) :
    worthOn (entry :: entries) chain =
      (if chain = entry.chain then entry.fiat.value else 0) + worthOn entries chain := by
  by_cases same : chain = entry.chain
  · simp [worthOn, same]
  · simp [worthOn, same, Ne.symm same]

theorem worthOn_of_not_mem {entries : List ChainHolding} {chain : ChainId}
    (absent : chain ∉ entries.map (·.chain)) : worthOn entries chain = 0 := by
  have none : entries.filter (·.chain = chain) = [] :=
    List.filter_eq_nil_iff.mpr fun entry member same =>
      absent (List.mem_map.mpr ⟨entry, member, of_decide_eq_true same⟩)
  simp [worthOn, none]

theorem worthOn_perm {entries others : List ChainHolding} (perm : entries.Perm others)
    (chain : ChainId) : worthOn entries chain = worthOn others chain :=
  ((perm.filter _).map _).sum_eq

/-- The sums on all chains are the sum of all. -/
theorem sum_worthOn {chains : List ChainId} (distinct : chains.Nodup) {entries : List ChainHolding}
    (inside : ∀ entry ∈ entries, entry.chain ∈ chains) :
    (chains.map fun chain => worthOn entries chain).sum = (entries.map (·.fiat.value)).sum := by
  induction entries with
  | nil => simp [worthOn]
  | cons entry rest ih =>
      obtain ⟨there, others⟩ := List.forall_mem_cons.mp inside
      have once : (chains.map fun chain => if chain = entry.chain then entry.fiat.value else 0).sum =
          entry.fiat.value := by
        rw [← List.sum_toFinset _ distinct, Finset.sum_ite_eq', if_pos (List.mem_toFinset.mpr there)]
      simp only [worthOn_cons, List.sum_map_add, once, ih others, List.map_cons, List.sum_cons]

namespace Tallies

variable {breakdown others : List (ChainId × Decimal)} {entries entries' : List ChainHolding}

theorem perm (tallies : Tallies breakdown entries) (perm : others.Perm breakdown)
    (reordered : entries'.Perm entries) : Tallies others entries' where
  distinct := (perm.map _).nodup_iff.mpr tallies.distinct
  chains chain := by
    rw [(perm.map _).mem_iff, (reordered.map _).mem_iff]
    exact tallies.chains chain
  exact place member := by
    rw [worthOn_perm reordered]
    exact tallies.exact place (perm.mem_iff.mp member)

/-- What is told is the sum for each chain. -/
theorem values_eq (tallies : Tallies breakdown entries) :
    breakdown.map (fun place => (place.1, place.2.value)) =
      (breakdown.map Prod.fst).map fun chain => (chain, worthOn entries chain) := by
  rw [List.map_map]
  exact List.map_congr_left fun place member =>
    congrArg (Prod.mk place.1) (tallies.exact place member).value_eq

/-- The order of the entries does not matter. -/
theorem values_perm (tallies : Tallies breakdown entries) (tallies' : Tallies others entries')
    (perm : entries'.Perm entries) :
    (others.map fun place => (place.1, place.2.value)).Perm
      (breakdown.map fun place => (place.1, place.2.value)) := by
  have chains : (others.map Prod.fst).Perm (breakdown.map Prod.fst) := by
    refine (List.perm_ext_iff_of_nodup tallies'.distinct tallies.distinct).mpr fun chain => ?_
    rw [tallies'.chains, tallies.chains, (perm.map _).mem_iff]
  have worths : worthOn entries' = worthOn entries := funext (worthOn_perm perm)
  rw [tallies.values_eq, tallies'.values_eq, worths]
  exact chains.map _

theorem sum_eq (tallies : Tallies breakdown entries) :
    (breakdown.map (·.2.value)).sum = (entries.map (·.fiat.value)).sum := by
  have values : breakdown.map (·.2.value) =
      (breakdown.map Prod.fst).map fun chain => worthOn entries chain := by
    simpa [Function.comp_def] using congrArg (List.map Prod.snd) tallies.values_eq
  rw [values]
  exact sum_worthOn tallies.distinct fun entry member =>
    (tallies.chains _).mpr (List.mem_map_of_mem member)

end Tallies

/-! ## One entry more -/

section
variable {chain : ChainId} {fiat : Decimal}

theorem addTo_of_not_mem {known : List (ChainId × Decimal)} (absent : chain ∉ known.map Prod.fst) :
    addTo chain fiat known = (sum (.ofNat 0) [fiat]).map fun total => known ++ [(chain, total)] := by
  induction known with
  | nil => rfl
  | cons place rest ih =>
      rw [List.map_cons, List.mem_cons, not_or] at absent
      rw [addTo, if_neg (Ne.symm absent.1), ih absent.2]
      cases sum (.ofNat 0) [fiat] <;> rfl

theorem addTo_of_mem {before after : List (ChainId × Decimal)} {total : Decimal}
    (absent : chain ∉ before.map Prod.fst) :
    addTo chain fiat (before ++ (chain, total) :: after) =
      (sum total [fiat]).map fun total => before ++ (chain, total) :: after := by
  induction before with
  | nil => rw [List.nil_append, addTo, if_pos rfl]; rfl
  | cons place rest ih =>
      rw [List.map_cons, List.mem_cons, not_or] at absent
      rw [List.cons_append, addTo, if_neg (Ne.symm absent.1), ih absent.2]
      cases sum total [fiat] <;> rfl

end

section
variable {known : List (ChainId × Decimal)} {entries : List ChainHolding} {entry : ChainHolding}

/-- One chain more, or one with a new total, before those that stay as they are. -/
theorem Tallies.cons {others : List (ChainId × Decimal)} {total : Decimal}
    (distinct : (entry.chain :: others.map Prod.fst).Nodup)
    (chains : ∀ chain ≠ entry.chain, chain ∈ others.map Prod.fst ↔ chain ∈ entries.map (·.chain))
    (exact : ∀ place ∈ others, place.2.StandsFor (worthOn entries place.1))
    (stands : total.StandsFor (worthOn entries entry.chain + entry.fiat.value)) :
    Tallies ((entry.chain, total) :: others) (entry :: entries) where
  distinct := distinct
  chains chain := by
    rw [List.map_cons, List.mem_cons, List.map_cons, List.mem_cons]
    by_cases same : chain = entry.chain
    · rw [or_iff_left_of_imp, or_iff_left_of_imp] <;> simp [same]
    · rw [chains chain same]
  exact := by
    intro place member
    rw [worthOn_cons]
    rcases List.mem_cons.mp member with rfl | other
    · rwa [if_pos rfl, add_comm]
    · have apart : place.1 ≠ entry.chain := fun same =>
        (List.nodup_cons.mp distinct).1 (same ▸ List.mem_map_of_mem other)
      rw [if_neg apart, zero_add]
      exact exact place other

theorem tallies_addTo (tallies : Tallies known entries)
    (bounded : ∀ place ∈ known, IsWithin 400 place.2) (price : entry.fiat.IsPrice)
    (fits : Decimal.Fits (worthOn entries entry.chain + entry.fiat.value)) :
    ∃ next, addTo entry.chain entry.fiat known = .ok next ∧ Tallies next (entry :: entries) ∧
      ∀ place ∈ next, IsWithin 400 place.2 := by
  by_cases there : entry.chain ∈ known.map Prod.fst
  · obtain ⟨⟨chain, total⟩, member, same⟩ := List.mem_map.mp there
    obtain rfl : chain = entry.chain := same
    obtain ⟨before, after, rfl⟩ := List.append_of_mem member
    -- the order of the chains does not matter, so this one can stand before the others
    have ahead := tallies.perm List.perm_middle.symm (.refl _)
    have apart := (List.nodup_cons.mp ahead.distinct).1
    obtain ⟨start, exact⟩ := List.forall_mem_cons.mp ahead.exact
    obtain ⟨total', added, stands, within⟩ := add_of_isPrice start (bounded _ member) price fits
    refine ⟨before ++ (entry.chain, total') :: after, ?_, ?_, ?_⟩
    · have absent : entry.chain ∉ before.map Prod.fst := fun inside =>
        apart (by rw [List.map_append]; exact List.mem_append_left _ inside)
      simp only [addTo_of_mem absent, sum, added]
      rfl
    · have chains : ∀ chain ≠ entry.chain,
          chain ∈ (before ++ after).map Prod.fst ↔ chain ∈ entries.map (·.chain) := by
        intro chain other
        rw [← ahead.chains, List.map_cons, List.mem_cons, or_iff_right other]
      exact (Tallies.cons ahead.distinct chains exact stands).perm List.perm_middle (.refl _)
    · intro place inside
      rcases List.mem_cons.mp (List.perm_middle.mem_iff.mp inside) with rfl | other
      · exact within
      · exact bounded place (List.perm_middle.mem_iff.mpr (List.mem_cons_of_mem _ other))
  · have before : worthOn entries entry.chain = 0 :=
      worthOn_of_not_mem ((tallies.chains _).not.mp there)
    have start : (Decimal.ofNat 0).StandsFor (worthOn entries entry.chain) :=
      before ▸ Decimal.standsFor_zero
    obtain ⟨total, added, stands, within⟩ :=
      add_of_isPrice start (Decimal.isWithin_zero 400 false 0) price fits
    refine ⟨known ++ [(entry.chain, total)], ?_, ?_, ?_⟩
    · simp only [addTo_of_not_mem there, sum, added]
      rfl
    · have grown := Tallies.cons (List.nodup_cons.mpr ⟨there, tallies.distinct⟩)
        (fun chain _ => tallies.chains chain) tallies.exact stands
      exact grown.perm (List.perm_append_singleton _ _) (.refl _)
    · exact List.forall_mem_append.mpr ⟨bounded, List.forall_mem_singleton.mpr within⟩

/-! ## All entries -/

theorem tallies_addAll {rest : List ChainHolding} (tallies : Tallies known entries)
    (bounded : ∀ place ∈ known, IsWithin 400 place.2) (prices : ∀ entry ∈ rest, entry.fiat.IsPrice)
    (fits : ∀ part chain, part.Sublist rest → Decimal.Fits (worthOn (part ++ entries) chain)) :
    ∃ breakdown, addAll known rest = .ok breakdown ∧ Tallies breakdown (rest ++ entries) := by
  induction rest generalizing known entries with
  | nil => exact ⟨known, rfl, tallies⟩
  | cons entry rest ih =>
      obtain ⟨price, others⟩ := List.forall_mem_cons.mp prices
      have one : Decimal.Fits (worthOn entries entry.chain + entry.fiat.value) := by
        have first := fits [entry] entry.chain (List.singleton_sublist.mpr List.mem_cons_self)
        rwa [List.singleton_append, worthOn_cons, if_pos rfl, add_comm] at first
      have onward : ∀ part chain, part.Sublist rest →
          Decimal.Fits (worthOn (part ++ entry :: entries) chain) := by
        intro part chain inside
        rw [worthOn_perm List.perm_middle]
        exact fits (entry :: part) chain (inside.cons_cons entry)
      obtain ⟨next, added, grown, within⟩ := tallies_addTo tallies bounded price one
      obtain ⟨breakdown, all, told⟩ := ih grown within others onward
      refine ⟨breakdown, ?_, told.perm (.refl _) List.perm_middle.symm⟩
      simp only [addAll, added]
      exact all

end

section
variable {held : Holdings} {assets : List Asset} (addUp : AddUp assets)
  (conserves : held.Conserves assets)
include addUp conserves

theorem isPrice_of_conserves : ∀ entry ∈ held.tokens.flatMap (·.chains), entry.fiat.IsPrice := by
  intro entry member
  obtain ⟨share, there, rfl⟩ := List.mem_map.mp (conserves.entries.mem_iff.mp member)
  obtain ⟨asset, reported, inside⟩ := List.mem_flatMap.mp there
  exact ChainHolding.isPrice_fiatNumber (addUp.shared asset reported share inside)

theorem addUp_of_conserves (chain : ChainId) : Decimal.AddUp
    (((held.tokens.flatMap (·.chains)).filter (·.chain = chain)).map (·.fiat.value)) := by
  have values : ((((assets.flatMap (·.shares)).map ChainHolding.ofShare).filter
      (·.chain = chain)).map (·.fiat.value)) =
      ((assets.flatMap (·.shares)).filter (·.chain = chain)).map ChainShare.worth := by
    rw [List.filter_map, List.map_map]
    refine List.map_congr_left fun share member => ?_
    obtain ⟨asset, reported, inside⟩ := List.mem_flatMap.mp (List.mem_of_mem_filter member)
    exact ((conserves.priced asset reported).2 share inside).value_eq
  have whole := addUp.parts chain
  rw [← values] at whole
  exact whole.perm ((conserves.entries.filter _).map _)

theorem tallies_byChain : ∃ breakdown, held.byChain = .ok breakdown ∧
    Tallies breakdown (held.tokens.flatMap (·.chains)) := by
  have start : Tallies [] [] := ⟨List.nodup_nil, by simp, by simp⟩
  have fits : ∀ part chain, part.Sublist (held.tokens.flatMap (·.chains)) →
      Decimal.Fits (worthOn (part ++ []) chain) := by
    intro part chain inside
    rw [List.append_nil]
    exact addUp_of_conserves addUp conserves chain _ ((inside.filter _).map _)
  obtain ⟨breakdown, all, tallies⟩ :=
    tallies_addAll start (by simp) (isPrice_of_conserves addUp conserves) fits
  rw [List.append_nil] at tallies
  exact ⟨breakdown, all, tallies⟩

end

theorem AddUp.perm {assets others : List Asset} (addUp : AddUp assets) (perm : others.Perm assets) :
    AddUp others where
  priced asset member := addUp.priced asset (perm.mem_iff.mp member)
  shared asset member := addUp.shared asset (perm.mem_iff.mp member)
  whole := addUp.whole.perm (perm.map _)
  parts chain := (addUp.parts chain).perm (((perm.flatMap_right _).filter _).map _)

end Holdings

/-! ## Asking for holdings -/

namespace Engine

variable {σ : Type} {engine : Engine σ} {lifetime : Int} {fresh : Bool} {kept : Option Holdings}
  {world after : World σ} {assets : List Asset}

/-- A request for a statement for which the backend has to be asked, and it reports some assets. -/
structure Fetches (engine : Engine σ) (lifetime : Int) (fresh : Bool) (kept : Option Holdings)
    (world : World σ) (assets : List Asset) (after : World σ) : Prop where
  due : fresh = true ∨ Holdings.left lifetime world.clock fresh kept = none
  fetched : engine.assets.runIn world = (.ok assets, after)

/-- The worth on each chain that is told as long as some holdings are. -/
def TellsWorth (engine : Engine σ) (lifetime : Int) (held : Holdings)
    (breakdown : List (ChainId × Decimal)) : Prop :=
  ∀ kept world again, (engine.holdings lifetime false kept world).1 = .ok (.holds held again) →
    (engine.worthByChain lifetime kept world).1 = .ok breakdown

theorem holdings_of_fetches (fetches : engine.Fetches lifetime fresh kept world assets after)
    {held : Holdings}
    (totals : Holdings.ofAssets (engine.userIn world) after.clock assets = .ok held) :
    engine.holdings lifetime fresh kept world = (.ok (.holds held false), some held, after) := by
  rw [engine.holdings_of_due fetches.due]
  simp only [renewed, runIn_askHoldings, fetches.fetched, totals]
  rfl

theorem tellsWorth_of_byChain (engine : Engine σ) (lifetime : Int) {held : Holdings}
    {breakdown : List (ChainId × Decimal)} (told : held.byChain = .ok breakdown) :
    engine.TellsWorth lifetime held breakdown := by
  intro kept world again given
  show (engine.holdings lifetime false kept world).1.bind (·.byChain) = _
  rw [given]
  exact told

theorem conserves_of_fetches (fetches : engine.Fetches lifetime fresh kept world assets after)
    (addUp : Holdings.AddUp assets) : ∃ held breakdown,
      engine.holdings lifetime fresh kept world = (.ok (.holds held false), some held, after) ∧
      held.Conserves assets ∧ engine.TellsWorth lifetime held breakdown ∧
      Holdings.Tallies breakdown (held.tokens.flatMap (·.chains)) := by
  obtain ⟨held, totals, conserves⟩ :=
    Holdings.conserves_of_addUp addUp (engine.userIn world) after.clock
  obtain ⟨breakdown, told, tallies⟩ := Holdings.tallies_byChain addUp conserves
  exact ⟨held, breakdown, holdings_of_fetches fetches totals, conserves,
    tellsWorth_of_byChain engine lifetime told, tallies⟩

/-- An engine of which the backend reports 1500 dollars of one token on a chain, and of another one
1000 on the same chain and 2000 elsewhere. -/
def twoTokens : Engine Unit :=
  let share (chain : Int) (balance : String) (fiat : Binary64) : Json := .obj [("chainId", .int chain),
    ("balance", .str balance), ("balanceInFiat", .float fiat)]
  let answer := Json.arr [
    .obj [("symbol", .str "ETH"), ("balance", .str "0.5"),
      ("balanceInFiat", .float (.finite false 6597069766656000 (-42))),
      ("breakdown", .arr [share 11155111 "0.5" (.finite false 6597069766656000 (-42))])],
    .obj [("symbol", .str "USDC"), ("balance", .str "3000"),
      ("balanceInFiat", .float (.finite false 6597069766656000 (-41))),
      ("breakdown", .arr [share 11155111 "1000" (.finite false 8796093022208000 (-43)),
        share 84532 "2000" (.finite false 8796093022208000 (-42))])]]
  { Sample.engine with
    backend := some { Sample.backend with answer := fun _ state => (⟨.ok answer, 0⟩, state) } }

end Engine

end ChainFlow

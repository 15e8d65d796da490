import ChainFlow.Proofs.Badges.Setting
import ChainFlow.Proofs.Sample

/-!
# One dry run after another

A dry run replaces the estimates that an earlier one of the same steps has left on the nodes, but takes
no badge away: a node that failed in the first and succeeds in the second shows its new estimates and
the failure of before. On all other nodes the second dry run shows as if the first had not been.
-/

namespace ChainFlow

/-! ## One node -/

namespace Node

/-- A node with all that a quote leaves on it. -/
def quoted (node : Node) (quote : Quote) : Node :=
  if quote.success then node.estimated quote else (node.estimated quote).withBadge .failed

/-- Whether a payload has a place for estimates, declared or not. -/
def TakesEstimates (node : Node) : Prop := (node.field? "estimated_cost").isSome = true

instance (node : Node) : Decidable node.TakesEstimates := inferInstanceAs (Decidable (_ = true))

theorem field?_estimated (node : Node) (quote : Quote) : (node.estimated quote).TakesEstimates ∧
    (node.estimated quote).field? "status" = node.field? "status" := by
  constructor
  · rw [TakesEstimates, estimated, field?_setAll]
    rfl
  · rw [estimated, field?_setAll]
    rfl

theorem takesEstimates_quoted (node : Node) (quote : Quote) : (node.quoted quote).TakesEstimates := by
  have takes := (node.field?_estimated quote).1
  unfold quoted
  split
  · exact takes
  · rwa [TakesEstimates, withBadge, field?_set, if_neg (by decide)]

theorem id_quoted (node : Node) (quote : Quote) : (node.quoted quote).id = node.id := by
  have same := node.sameOutside_estimated quote
  unfold quoted
  split
  · exact same.id
  · exact (same.trans (sameOutside_withBadge _ _)).id

theorem quoted_quoted (node : Node) (first second : Quote) : (node.quoted first).quoted second =
    if first.success = false ∧ second.success = true then (node.quoted second).withBadge .failed
    else node.quoted second := by
  unfold quoted
  cases first.success <;> cases second.success <;>
    simp [estimated_withBadge, estimated_estimated, withBadge_withBadge]

end Node

/-! ## Two dry runs -/

namespace Badge

/-- Whether a dry run has a quote for a node, with success or without. -/
def QuotedAs (quote : FlowQuote) (node : Node) (success : Bool) : Prop :=
  ∃ result ∈ quote.quotes, result.node = node.id ∧ result.success = success

/-- Whether a node shows estimates and failed in the first of two dry runs, but not in the second. -/
def Recovers (first second : FlowQuote) (node : Node) : Prop :=
  node.TakesEstimates ∧ QuotedAs first node false ∧ QuotedAs second node true

instance (first second : FlowQuote) (node : Node) : Decidable (Recovers first second node) :=
  inferInstanceAs (Decidable (_ ∧ (∃ result ∈ first.quotes, _ ∧ _) ∧ ∃ result ∈ second.quotes, _ ∧ _))

theorem quotedAs_iff {quote : FlowQuote} (distinct : (quote.quotes.map (·.node)).Nodup) (node : Node)
    (success : Bool) :
    QuotedAs quote node success ↔ (lastQuote? quote.quotes node.id).map (·.success) = some success := by
  simp only [QuotedAs, lastQuote?, Option.map_eq_some_iff, find?_reverse_eq_some_iff distinct, and_assoc]

theorem isSome_lastQuote? {quotes : List Quote} {id : String} :
    (lastQuote? quotes id).isSome = true ↔ id ∈ quotes.map (·.node) := isSome_find?_reverse

theorem showQuote_of_some {quotes : List Quote} {node : Node} {quote : Quote}
    (last : lastQuote? quotes node.id = some quote) (takes : node.TakesEstimates) :
    showQuote quotes node = node.quoted quote := by
  have place : ¬(node.field? "estimated_cost").isNone = true := by
    rw [Option.isNone_iff_eq_none]
    exact Option.isSome_iff_ne_none.mp takes
  simp only [showQuote, last, if_neg place]
  rfl

theorem showQuote_of_idle {quotes : List Quote} {node : Node}
    (idle : lastQuote? quotes node.id = none ∨ ¬node.TakesEstimates) : showQuote quotes node = node := by
  unfold showQuote
  rcases idle with none | placeless
  · rw [none]
  · have place : (node.field? "estimated_cost").isNone = true := by
      simpa [Node.TakesEstimates] using placeless
    cases lastQuote? quotes node.id with
    | none => rfl
    | some quote => exact if_pos place

variable {first second : FlowQuote}

theorem showQuote_showQuote (distinct : (first.quotes.map (·.node)).Nodup)
    (same : (first.quotes.map (·.node)).Perm (second.quotes.map (·.node))) (node : Node) :
    showQuote second.quotes (showQuote first.quotes node) =
      if Recovers first second node then (showQuote second.quotes node).withBadge .failed
      else showQuote second.quotes node := by
  have one := quotedAs_iff distinct node
  have two := quotedAs_iff (same.nodup distinct) node
  by_cases takes : node.TakesEstimates
  · cases quote : lastQuote? first.quotes node.id with
    | none =>
        have unquoted : ¬Recovers first second node := by
          rintro ⟨-, failure, -⟩
          rw [one, quote] at failure
          cases failure
        rw [showQuote_of_idle (.inl quote), if_neg unquoted]
    | some before =>
        obtain ⟨after, quote'⟩ : ∃ after, lastQuote? second.quotes node.id = some after := by
          rw [← Option.isSome_iff_exists, isSome_lastQuote?, ← same.mem_iff, ← isSome_lastQuote?, quote]
          rfl
        have recovers : Recovers first second node ↔ before.success = false ∧ after.success = true := by
          simp only [Recovers, one, two, quote, quote', takes, true_and, Option.map_some,
            Option.some.injEq]
        have again : lastQuote? second.quotes (node.quoted before).id = some after := by
          rw [Node.id_quoted, quote']
        rw [showQuote_of_some quote takes, showQuote_of_some quote' takes,
          showQuote_of_some again (node.takesEstimates_quoted before), Node.quoted_quoted]
        simp only [recovers]
  · have unquoted : ¬Recovers first second node := fun recovers => takes recovers.1
    rw [showQuote_of_idle (.inr takes), if_neg unquoted]

/-- What succeeds in a dry run gets no badge from it. -/
theorem not_shows_failed (distinct : (second.quotes.map (·.node)).Nodup) {node : Node}
    (takes : node.TakesEstimates) (succeeds : QuotedAs second node true)
    (plain : node.field? "status" = some .null) :
    ¬(showQuote second.quotes node).Shows .failed := by
  obtain ⟨quote, last, success⟩ :=
    Option.map_eq_some_iff.mp ((quotedAs_iff distinct node true).mp succeeds)
  rw [showQuote_of_some last takes, Node.quoted, if_pos success, Node.Shows,
    (node.field?_estimated quote).2, plain]
  rintro ⟨⟩

/-- A second dry run of the same steps shows as if the first had not been, except that a failure stays
on the nodes that recover. If the nodes had no badge of their own, the second dry run is all that shows
exactly if none recovers. -/
theorem afterQuote_afterQuote (distinct : (first.quotes.map (·.node)).Nodup)
    (same : (first.quotes.map (·.node)).Perm (second.quotes.map (·.node))) (nodes : List Node) :
    afterQuote (afterQuote nodes first) second = nodes.map (fun node =>
        if Recovers first second node then (showQuote second.quotes node).withBadge .failed
        else showQuote second.quotes node) ∧
      ((∀ node ∈ nodes, node.field? "status" = some .null) →
        (afterQuote (afterQuote nodes first) second = afterQuote nodes second ↔
          ∀ node ∈ nodes, ¬Recovers first second node)) := by
  have shown : afterQuote (afterQuote nodes first) second = nodes.map fun node =>
      if Recovers first second node then (showQuote second.quotes node).withBadge .failed
      else showQuote second.quotes node := by
    rw [afterQuote, afterQuote, List.map_map]
    exact List.map_congr_left fun node _ => showQuote_showQuote distinct same node
  refine ⟨shown, fun plain => ?_⟩
  rw [shown, afterQuote, List.map_inj_left]
  refine forall₂_congr fun node member => ?_
  by_cases recovers : Recovers first second node
  · rw [if_pos recovers, iff_false_right (not_not.mpr recovers)]
    intro unchanged
    have failure : ((showQuote second.quotes node).withBadge .failed).Shows .failed :=
      Node.shows_withBadge_iff.mpr rfl
    rw [unchanged] at failure
    exact not_shows_failed (same.nodup distinct) recovers.1 recovers.2.2 (plain node member) failure
  · rw [if_neg recovers]
    exact iff_of_true rfl recovers

/-- A dry run without a route for the bridge. -/
def routeless : FlowQuote :=
  ⟨"0.75", 7, .zero false, [.failed "b" "no route", ⟨"c", true, "0.75", 7, none, none⟩]⟩

/-- A dry run in which the call has no vault either. -/
def vaultless : FlowQuote :=
  ⟨"0.00", 0, .zero false, [.failed "c" "no vault", .failed "b" "no route"]⟩

theorem afterQuote_afterQuote_vaultless :
    (routeless.quotes.map (·.node)).Nodup ∧
    (routeless.quotes.map (·.node)).Perm (vaultless.quotes.map (·.node)) ∧
    (∀ node ∈ Sample.brokenNodes, node.field? "status" = some .null) ∧
    afterQuote (afterQuote Sample.brokenNodes routeless) vaultless =
      afterQuote Sample.brokenNodes vaultless := by
  have distinct : (routeless.quotes.map (·.node)).Nodup := by decide
  have same : (routeless.quotes.map (·.node)).Perm (vaultless.quotes.map (·.node)) := by decide
  have plain : ∀ node ∈ Sample.brokenNodes, node.field? "status" = some .null := by
    rw [Sample.brokenNodes, List.forall_mem_cons, List.forall_mem_cons, List.forall_mem_cons]
    exact ⟨rfl, rfl, rfl, List.forall_mem_nil _⟩
  exact ⟨distinct, same, plain,
    ((afterQuote_afterQuote distinct same Sample.brokenNodes).2 plain).mpr (by decide +kernel)⟩

/-- A transfer without a badge that fails in one dry run and succeeds in the next. It shows as failed,
and would not after the second alone. -/
theorem afterQuote_recovered :
    (Sample.transfer "t" "5" "0xabc").field? "status" = some .null ∧
    (afterQuote
      (afterQuote [Sample.transfer "t" "5" "0xabc"]
        ⟨"0.00", 0, .zero false, [.failed "t" "no route"]⟩)
      ⟨"0.75", 7, .zero false, [⟨"t", true, "0.75", 7, none, none⟩]⟩).map (·.badge) = [some .failed] ∧
    (afterQuote [Sample.transfer "t" "5" "0xabc"]
      ⟨"0.75", 7, .zero false, [⟨"t", true, "0.75", 7, none, none⟩]⟩).map (·.badge) = [none] :=
  ⟨rfl, rfl, rfl⟩

end Badge

end ChainFlow

import ChainFlow.Proofs.Json.Fields
import ChainFlow.Proofs.Node.Document

/-!
# Setting fields of a payload

A field that is set has the value it was set to, and all others have the value they had
(`field?_set`). A value of a declared field's type takes the place of the one before, any other value
hides it, and under an undeclared name it is put beside the undeclared fields. Nothing but the payload
is touched.
-/

namespace ChainFlow

open Schema

/-! ## Values of a field's type -/

theorem Token.symbol_of_ofSymbol? {symbol : String} {token : Token}
    (known : ofSymbol? symbol = some token) : token.symbol = symbol := by
  unfold ofSymbol? at known
  split at known <;> cases known <;> rfl

theorem Action.word_of_ofWord? {word : String} {action : Action}
    (known : ofWord? word = some action) : action.word = word := by
  unfold ofWord? at known
  split at known <;> cases known <;> rfl

theorem Badge.word_of_ofWord? {word : String} {badge : Badge}
    (known : ofWord? word = some badge) : badge.word = word := by
  unfold ofWord? at known
  split at known <;> cases known <;> rfl

section

variable {value : Json}

theorem ofString?_of_exactText? {text : Option String} (exact : exactText? value = some text) :
    Json.ofString? text = value := by
  unfold exactText? at exact
  split at exact <;> cases exact <;> rfl

theorem ofInt?_of_exactInt? {number : Option Int} (exact : exactInt? value = some number) :
    Json.ofInt? number = value := by
  unfold exactInt? at exact
  split at exact <;> cases exact <;> rfl

theorem dump?_of_exactToken? {token : Option Token} (exact : exactToken? value = some token) :
    Token.dump? token = value := by
  unfold exactToken? at exact
  split at exact
  · obtain ⟨known, isKnown, rfl⟩ := Option.map_eq_some_iff.mp exact
    exact congrArg Json.str (Token.symbol_of_ofSymbol? isKnown)
  · cases exact
    rfl
  · cases exact

theorem ofOption_of_exactBadge? {badge : Option Badge} (exact : exactBadge? value = some badge) :
    Json.ofOption (fun badge => .str badge.word) badge = value := by
  unfold exactBadge? at exact
  split at exact
  · obtain ⟨known, isKnown, rfl⟩ := Option.map_eq_some_iff.mp exact
    exact congrArg Json.str (Badge.word_of_ofWord? isKnown)
  · cases exact
    rfl
  · cases exact

end

/-! ## One record -/

/-- The values of the fields of a record after the field of a plain name was set. -/
def overlay (name : String) (value : Json) (labels : List Label) (values : List Json) : List Json :=
  List.zipWith (fun label old => if label.plain = name then value else old) labels values

theorem overlay_append (name : String) (value : Json) {labels : List Label} {values : List Json}
    (lengths : labels.length = values.length) (labels' : List Label) (values' : List Json) :
    overlay name value (labels ++ labels') (values ++ values') =
      overlay name value labels values ++ overlay name value labels' values' :=
  List.zipWith_append lengths

theorem overlay_of_absent {name : String} {labels : List Label}
    (absent : ∀ label ∈ labels, label.plain ≠ name) (value : Json) {values : List Json}
    (lengths : labels.length = values.length) : overlay name value labels values = values := by
  induction labels generalizing values with
  | nil =>
      cases values with
      | nil => rfl
      | cons => cases lengths
  | cons label labels ih =>
      cases values with
      | nil => cases lengths
      | cons old values =>
          have rest := ih (fun label member => absent label (List.mem_cons_of_mem _ member))
            (Nat.succ.inj lengths)
          unfold overlay at rest ⊢
          rw [List.zipWith_cons_cons, if_neg (absent label List.mem_cons_self), rest]

section

variable {name : String} {value : Json}

theorem Start.values_set? {start changed : Start} (set : start.set? name value = some changed) :
    changed.values = overlay name value Start.labels start.values := by
  unfold Start.set? at set
  split at set
  · cases set
    rfl
  · obtain ⟨token, known, rfl⟩ := Option.map_eq_some_iff.mp set
    simp [overlay, Start.values, Start.labels, Label.same, Token.symbol_of_ofSymbol? known]
  · obtain ⟨amount, exact, rfl⟩ := Option.map_eq_some_iff.mp set
    simp [overlay, Start.values, Start.labels, Label.same, ofString?_of_exactText? exact]
  · obtain ⟨address, exact, rfl⟩ := Option.map_eq_some_iff.mp set
    simp [overlay, Start.values, Start.labels, Label.same, ofString?_of_exactText? exact]
  · cases set

theorem Bridge.values_set? {bridge changed : Bridge} (set : bridge.set? name value = some changed) :
    changed.values = overlay name value Bridge.labels bridge.values := by
  unfold Bridge.set? at set
  split at set
  · cases set
    rfl
  · cases set
    rfl
  · obtain ⟨chain, exact, rfl⟩ := Option.map_eq_some_iff.mp set
    simp [overlay, Bridge.values, Bridge.labels, Label.same, ofInt?_of_exactInt? exact]
  · obtain ⟨token, exact, rfl⟩ := Option.map_eq_some_iff.mp set
    simp [overlay, Bridge.values, Bridge.labels, Label.same, dump?_of_exactToken? exact]
  · cases set

theorem Transfer.values_set? {transfer changed : Transfer}
    (set : transfer.set? name value = some changed) :
    changed.values = overlay name value Transfer.labels transfer.values := by
  unfold Transfer.set? at set
  split at set
  · cases set
    rfl
  · cases set
    rfl
  · obtain ⟨chain, exact, rfl⟩ := Option.map_eq_some_iff.mp set
    simp [overlay, Transfer.values, Transfer.labels, Label.same, ofInt?_of_exactInt? exact]
  · obtain ⟨token, exact, rfl⟩ := Option.map_eq_some_iff.mp set
    simp [overlay, Transfer.values, Transfer.labels, Label.same, dump?_of_exactToken? exact]
  · cases set

theorem ContractCall.values_set? {call changed : ContractCall}
    (set : call.set? name value = some changed) :
    changed.values = overlay name value ContractCall.labels call.values := by
  unfold ContractCall.set? at set
  split at set
  · obtain ⟨action, known, rfl⟩ := Option.map_eq_some_iff.mp set
    simp [overlay, ContractCall.values, ContractCall.labels, Label.same,
      Action.word_of_ofWord? known]
  · cases set
    rfl
  · obtain ⟨chain, exact, rfl⟩ := Option.map_eq_some_iff.mp set
    simp [overlay, ContractCall.values, ContractCall.labels, Label.same, ofInt?_of_exactInt? exact]
  · obtain ⟨token, exact, rfl⟩ := Option.map_eq_some_iff.mp set
    simp [overlay, ContractCall.values, ContractCall.labels, Label.same,
      dump?_of_exactToken? exact]
  · obtain ⟨contract, exact, rfl⟩ := Option.map_eq_some_iff.mp set
    simp [overlay, ContractCall.values, ContractCall.labels, Label.same,
      ofString?_of_exactText? exact]
  · cases set
    rfl
  · cases set
    rfl
  · cases set

theorem Finish.values_set? {finish changed : Finish} (set : finish.set? name value = some changed) :
    changed.values = overlay name value Finish.labels finish.values := by
  unfold Finish.set? at set
  split at set
  · obtain ⟨chain, exact, rfl⟩ := Option.map_eq_some_iff.mp set
    simp [overlay, Finish.values, Finish.labels, Label.same, ofInt?_of_exactInt? exact]
  · obtain ⟨token, exact, rfl⟩ := Option.map_eq_some_iff.mp set
    simp [overlay, Finish.values, Finish.labels, Label.same, dump?_of_exactToken? exact]
  · obtain ⟨amount, exact, rfl⟩ := Option.map_eq_some_iff.mp set
    simp [overlay, Finish.values, Finish.labels, Label.same, ofString?_of_exactText? exact]
  · obtain ⟨description, exact, rfl⟩ := Option.map_eq_some_iff.mp set
    simp [overlay, Finish.values, Finish.labels, Label.same, ofString?_of_exactText? exact]
  · cases set

theorem Estimate.values_set? {estimate changed : Estimate}
    (set : estimate.set? name value = some changed) :
    changed.values = overlay name value Estimate.labels estimate.values ∧
      (name = "estimated_cost" ∨ name = "estimated_time") := by
  unfold Estimate.set? at set
  split at set
  · obtain ⟨cost, exact, rfl⟩ := Option.map_eq_some_iff.mp set
    simp [overlay, Estimate.values, Estimate.labels, ofString?_of_exactText? exact]
  · obtain ⟨seconds, exact, rfl⟩ := Option.map_eq_some_iff.mp set
    simp [overlay, Estimate.values, Estimate.labels, ofInt?_of_exactInt? exact]
  · cases set

end

/-! ## A part in the flow -/

def Work.labels : Work → List Label
  | .bridge _ => Bridge.labels
  | .transfer _ => Transfer.labels
  | .call _ => ContractCall.labels

theorem Work.length_values (work : Work) : work.labels.length = work.values.length := by
  cases work <;> rfl

theorem Role.roleLabels_action (work : Work) (estimate : Estimate) :
    (Role.action work estimate).kind.roleLabels = Estimate.labels ++ work.labels := by
  cases work <;> rfl

/-- No work has a field of the name of an estimate. -/
theorem Work.plain_ne (work : Work) : ∀ label ∈ work.labels,
    label.plain ≠ "estimated_cost" ∧ label.plain ≠ "estimated_time" := by
  cases work <;> dsimp only [labels] <;> decide

theorem Work.set?_estimate (work : Work) (value : Json) :
    work.set? "estimated_cost" value = none ∧ work.set? "estimated_time" value = none := by
  cases work <;> exact ⟨rfl, rfl⟩

theorem Role.set?_shared (role : Role) (value : Json) :
    role.set? "label" value = none ∧ role.set? "status" value = none := by
  match role with
  | .start _ => exact ⟨rfl, rfl⟩
  | .action (.bridge _) _ => exact ⟨rfl, rfl⟩
  | .action (.transfer _) _ => exact ⟨rfl, rfl⟩
  | .action (.call _) _ => exact ⟨rfl, rfl⟩
  | .finish _ => exact ⟨rfl, rfl⟩

theorem Kind.plain_ne (kind : Kind) : ∀ label ∈ kind.roleLabels,
    label.plain ≠ "label" ∧ label.plain ≠ "status" := by
  cases kind <;> decide

section

variable {name : String} {value : Json}

theorem Work.values_set? {work changed : Work} (set : work.set? name value = some changed) :
    changed.labels = work.labels ∧ changed.values = overlay name value work.labels work.values := by
  cases work with
  | bridge own =>
      obtain ⟨bridge, isSet, rfl⟩ := Option.map_eq_some_iff.mp set
      exact ⟨rfl, Bridge.values_set? isSet⟩
  | transfer own =>
      obtain ⟨transfer, isSet, rfl⟩ := Option.map_eq_some_iff.mp set
      exact ⟨rfl, Transfer.values_set? isSet⟩
  | call own =>
      obtain ⟨call, isSet, rfl⟩ := Option.map_eq_some_iff.mp set
      exact ⟨rfl, ContractCall.values_set? isSet⟩

theorem Work.kind_set? {work changed : Work} (set : work.set? name value = some changed)
    (estimate : Estimate) :
    (Role.action changed estimate).kind = (Role.action work estimate).kind := by
  cases work <;> obtain ⟨own, _, rfl⟩ := Option.map_eq_some_iff.mp set <;> rfl

theorem Role.values_set? {role changed : Role} (set : role.set? name value = some changed) :
    changed.kind = role.kind ∧
      changed.values = overlay name value role.kind.roleLabels role.values := by
  match role with
  | .start own =>
    obtain ⟨start, isSet, rfl⟩ := Option.map_eq_some_iff.mp set
    exact ⟨rfl, Start.values_set? isSet⟩
  | .finish own =>
    obtain ⟨finish, isSet, rfl⟩ := Option.map_eq_some_iff.mp set
    exact ⟨rfl, Finish.values_set? isSet⟩
  | .action work estimate =>
    rw [Role.roleLabels_action, Role.values, overlay_append name value rfl]
    dsimp only [Role.set?] at set
    split at set
    · next estimated isSet =>
      obtain ⟨values, isEstimate⟩ := Estimate.values_set? isSet
      have absent : ∀ label ∈ work.labels, label.plain ≠ name := fun label member => by
        rcases isEstimate with rfl | rfl
        · exact (work.plain_ne label member).1
        · exact (work.plain_ne label member).2
      cases set
      rw [overlay_of_absent absent value work.length_values, ← values]
      exact ⟨by cases work <;> rfl, rfl⟩
    · obtain ⟨own, isSet, rfl⟩ := Option.map_eq_some_iff.mp set
      have absent : ∀ label ∈ Estimate.labels, label.plain ≠ name := by
        simp only [Estimate.labels, List.mem_cons, List.not_mem_nil, or_false, forall_eq_or_imp,
          forall_eq]
        constructor
        · rintro rfl
          cases (work.set?_estimate value).1.symm.trans isSet
        · rintro rfl
          cases (work.set?_estimate value).2.symm.trans isSet
      rw [overlay_of_absent absent value rfl, ← (Work.values_set? isSet).2]
      exact ⟨Work.kind_set? isSet estimate, rfl⟩

end

/-! ## A node -/

namespace Node

variable {name : String} {value : Json}

/-- A field that is set to a value of its type changes neither the other fields nor the kind. -/
theorem setDeclared?_eq_some {node changed : Node}
    (set : node.setDeclared? name value = some changed) :
    changed.kind = node.kind ∧
    changed.values = overlay name value node.kind.labels node.values ∧
    ∃ label badge role, changed = { node with label, badge, role } := by
  have apart : overlay name value node.kind.labels node.values =
      overlay name value [.same "label", .same "status"]
          [.str node.label, .ofOption (fun badge => .str badge.word) node.badge] ++
        overlay name value node.kind.roleLabels node.role.values := by
    rw [Kind.labels_eq, values, overlay_append name value rfl]
  have kept (absent : ∀ label ∈ node.kind.roleLabels, label.plain ≠ name) :
      overlay name value node.kind.roleLabels node.role.values = node.role.values :=
    overlay_of_absent absent value node.role.length_values
  rw [apart]
  unfold setDeclared? at set
  split at set
  · cases set
    rw [kept fun label member => (node.kind.plain_ne label member).1]
    exact ⟨rfl, rfl, _, _, _, rfl⟩
  · obtain ⟨badge, exact, rfl⟩ := Option.map_eq_some_iff.mp set
    rw [kept fun label member => (node.kind.plain_ne label member).2, ← ofOption_of_exactBadge? exact]
    exact ⟨rfl, rfl, _, _, _, rfl⟩
  · obtain ⟨role, isSet, rfl⟩ := Option.map_eq_some_iff.mp set
    obtain ⟨kind, roleValues⟩ := Role.values_set? isSet
    have absent : ∀ label ∈ [Label.same "label", .same "status"], label.plain ≠ name := by
      simp only [Label.same, List.mem_cons, List.not_mem_nil, or_false, forall_eq_or_imp, forall_eq]
      constructor
      · rintro rfl
        cases (node.role.set?_shared value).1.symm.trans isSet
      · rintro rfl
        cases (node.role.set?_shared value).2.symm.trans isSet
    rw [overlay_of_absent absent value rfl]
    exact ⟨kind, congrArg _ roleValues, _, _, _, rfl⟩

/-- The value of a declared field by its plain name, be it hidden or not. -/
def own? (node : Node) (name : String) : Option Json :=
  ((node.kind.labels.zip node.values).find? (·.1.plain == name)).map (·.2)

theorem own?_eq_none {node : Node} {name : String} :
    node.own? name = none ↔ node.kind.labels.any (·.plain == name) = false := by
  have lengths : node.kind.labels.length ≤ node.values.length := by
    rw [Kind.labels_eq, values, List.length_append, List.length_append]
    exact Nat.add_le_add_left node.role.length_values.le 2
  have labels := List.map_fst_zip lengths
  rw [own?, Option.map_eq_none_iff, List.find?_eq_none]
  conv_rhs => rw [← labels, List.any_map]
  rw [List.any_eq_false]
  rfl

theorem field?_eq (node : Node) (name : String) : node.field? name =
    match node.own? name with
    | some value => some ((node.payloadOverrides.get? name).getD value)
    | none => node.payloadExtras.get? name := by
  have looked : node.declared.find? (·.1.plain == name) =
      ((node.kind.labels.zip node.values).find? (·.1.plain == name)).map fun field =>
        (field.1, (node.payloadOverrides.get? field.1.plain).getD field.2) :=
    List.find?_map ..
  unfold field? own?
  rw [looked]
  cases found : (node.kind.labels.zip node.values).find? (·.1.plain == name) with
  | none => rfl
  | some field =>
      obtain rfl : field.1.plain = name := by simpa using List.find?_some found
      rfl

theorem find?_overlay (name : String) (value : Json) (labels : List Label) (values : List Json)
    (other : String) :
    ((labels.zip (overlay name value labels values)).find? (·.1.plain == other)).map (·.2) =
      (((labels.zip values).find? (·.1.plain == other)).map (·.2)).map fun old =>
        if other = name then value else old := by
  induction labels generalizing values with
  | nil => rfl
  | cons label labels ih =>
      cases values with
      | nil => rfl
      | cons old values =>
          have rest := ih values
          unfold overlay at rest ⊢
          rw [List.zipWith_cons_cons, List.zip_cons_cons, List.zip_cons_cons]
          by_cases same : label.plain = other
          · simp [same]
          · rw [List.find?_cons_of_neg (by simpa using same), rest,
              List.find?_cons_of_neg (by simpa using same)]

theorem own?_overlay {node changed : Node} (kind : changed.kind = node.kind)
    (values : changed.values = overlay name value node.kind.labels node.values) (other : String) :
    changed.own? other =
      (node.own? other).map fun old => if other = name then value else old := by
  rw [own?, kind, values]
  exact find?_overlay name value node.kind.labels node.values other

/-- What becomes of a payload when a field is set. -/
inductive Stores (name : String) (value : Json) (node changed : Node) : Prop
  | typed (declared : (node.own? name).isSome)
      (own : ∀ other, changed.own? other =
        (node.own? other).map fun old => if other = name then value else old)
      (overrides : changed.payloadOverrides = node.payloadOverrides.erase name)
      (extras : changed.payloadExtras = node.payloadExtras)
  | hidden (declared : (node.own? name).isSome)
      (own : ∀ other, changed.own? other = node.own? other)
      (overrides : changed.payloadOverrides = Fields.put node.payloadOverrides name value)
      (extras : changed.payloadExtras = node.payloadExtras)
  | beside (undeclared : node.own? name = none)
      (own : ∀ other, changed.own? other = node.own? other)
      (overrides : changed.payloadOverrides = node.payloadOverrides)
      (extras : changed.payloadExtras = Fields.put node.payloadExtras name value)

/-- Two nodes that differ in their payloads at most. -/
structure SameOutside (node changed : Node) : Prop where
  id : changed.id = node.id
  kind : changed.kind = node.kind
  place : changed.place = node.place
  extras : changed.extras = node.extras

theorem SameOutside.refl (node : Node) : SameOutside node node := ⟨rfl, rfl, rfl, rfl⟩

theorem SameOutside.trans {first second third : Node} (one : SameOutside first second)
    (two : SameOutside second third) : SameOutside first third :=
  ⟨two.id.trans one.id, two.kind.trans one.kind, two.place.trans one.place,
    two.extras.trans one.extras⟩

theorem set_spec (node : Node) (name : String) (value : Json) :
    SameOutside node (node.set name value) ∧ Stores name value node (node.set name value) := by
  unfold set
  by_cases known : node.kind.labels.any (·.plain == name) = true
  · have declared : (node.own? name).isSome := by
      rw [Option.isSome_iff_ne_none]
      exact fun none => by simp [own?_eq_none.mp none] at known
    rw [if_pos known]
    cases typed : node.setDeclared? name value with
    | some changed =>
        obtain ⟨kind, values, label, badge, role, rfl⟩ := setDeclared?_eq_some typed
        exact ⟨⟨rfl, kind, rfl, rfl⟩, .typed declared (own?_overlay kind values) rfl rfl⟩
    | none => exact ⟨⟨rfl, rfl, rfl, rfl⟩, .hidden declared (fun _ => rfl) rfl rfl⟩
  · rw [if_neg known]
    have undeclared := own?_eq_none.mpr (Bool.eq_false_of_not_eq_true known)
    exact ⟨⟨rfl, rfl, rfl, rfl⟩, .beside undeclared (fun _ => rfl) rfl rfl⟩

theorem field?_set (node : Node) (name : String) (value : Json) (other : String) :
    (node.set name value).field? other = if other = name then some value else node.field? other := by
  rw [field?_eq, field?_eq]
  cases (node.set_spec name value).2 with
  | typed declared own overrides extras =>
      rw [own, overrides, extras, Fields.get?_erase]
      by_cases same : other = name
      · obtain ⟨old, isOld⟩ := Option.isSome_iff_exists.mp declared
        rw [same, isOld, if_pos rfl, if_pos rfl]
        simp
      · simp only [if_neg same, Option.map_id']
  | hidden declared own overrides extras =>
      rw [own, overrides, extras, Fields.get?_put]
      by_cases same : other = name
      · obtain ⟨old, isOld⟩ := Option.isSome_iff_exists.mp declared
        rw [same, isOld, if_pos rfl, if_pos rfl]
        rfl
      · rw [if_neg same, if_neg same]
  | beside undeclared own overrides extras =>
      rw [own, overrides, extras, Fields.get?_put]
      by_cases same : other = name
      · rw [same, undeclared, if_pos rfl]
      · rw [if_neg same, if_neg same]

/-! ## Several fields -/

theorem setAll_cons (node : Node) (change : String × Json) (changes : Fields) :
    node.setAll (change :: changes) = (node.set change.1 change.2).setAll changes := rfl

theorem sameOutside_setAll (node : Node) (changes : Fields) : SameOutside node (node.setAll changes) := by
  induction changes generalizing node with
  | nil => exact .refl node
  | cons change changes ih => exact (node.set_spec change.1 change.2).1.trans (ih _)

/-- Of several changes of one name the last counts. -/
theorem field?_setAll (node : Node) (changes : Fields) (name : String) :
    (node.setAll changes).field? name = (Fields.get? changes.reverse name).or (node.field? name) := by
  induction changes generalizing node with
  | nil => rfl
  | cons change changes ih =>
      have last : Fields.get? (change :: changes).reverse name =
          (Fields.get? changes.reverse name).or (Fields.get? [change] name) := by
        rw [List.reverse_cons, Fields.get?_append]
      rw [setAll_cons, ih, field?_set, last, Option.or_assoc]
      congr 1
      rw [Fields.get?_cons]
      split_ifs <;> rfl

end Node

end ChainFlow

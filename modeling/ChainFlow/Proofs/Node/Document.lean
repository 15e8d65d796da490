import ChainFlow.Proofs.Node.Role

/-!
# Nodes in documents

A node that was read and is written into a document reads back as the document keeps it: without its
undeclared fields that are null, and with null for the undeclared numbers that are not finite
(`Node.read_dump`).
-/

namespace ChainFlow

open Schema
open Json (IsProper ItemsProper FieldsProper)
open Text (IsJoined)

theorem Kind.wellNamed_labels (kind : Kind) : WellNamed kind.labels := by
  cases kind <;> exact ⟨by decide, by decide, by decide⟩

theorem Node.wellNamed_labels : WellNamed Node.labels := ⟨by decide, by decide, by decide⟩

theorem Role.length_values (role : Role) : role.kind.roleLabels.length = role.values.length := by
  match role with
  | .start _ => rfl
  | .action (.bridge _) _ => rfl
  | .action (.transfer _) _ => rfl
  | .action (.call _) _ => rfl
  | .finish _ => rfl

/-- The parameters of a contract call, if the part in the flow is one that has them. -/
def Role.parameters : Role → Option Fields
  | .action (.call call) _ => call.parameters
  | _ => none

theorem Role.documented_eq_self_iff (role : Role) : role.documented = role ↔
    ∀ fields, role.parameters = some fields → Json.fieldsFinite fields = true := by
  match role with
  | .start _ => exact ⟨fun _ _ => nofun, fun _ => rfl⟩
  | .action (.bridge _) _ => exact ⟨fun _ _ => nofun, fun _ => rfl⟩
  | .action (.transfer _) _ => exact ⟨fun _ _ => nofun, fun _ => rfl⟩
  | .finish _ => exact ⟨fun _ _ => nofun, fun _ => rfl⟩
  | .action (.call ⟨_, _, _, _, _, none⟩) _ => exact ⟨fun _ _ => nofun, fun _ => rfl⟩
  | .action (.call ⟨_, _, _, _, _, some fields⟩) _ =>
    have whole : (Json.obj fields).finite = .obj fields ↔ (Json.obj fields).isFinite = true :=
      Json.finite_eq_self_iff
    simpa [Role.documented, Role.parameters, Json.finite, Json.isFinite] using whole

/-- A value of a declared field: null, a whole number, a text or the parameters of a call. -/
inductive IsDeclared (parameters : Option Fields) : Json → Prop
  | null : IsDeclared parameters .null
  | int (value : Int) : IsDeclared parameters (.int value)
  | str (text : String) : IsDeclared parameters (.str text)
  | obj {fields : Fields} (given : parameters = some fields) : IsDeclared parameters (.obj fields)

section

variable {parameters : Option Fields}

theorem isDeclared_ofString? (text : Option String) : IsDeclared parameters (Json.ofString? text) := by
  cases text with
  | none => exact .null
  | some text => exact .str text

theorem isDeclared_ofInt? (value : Option Int) : IsDeclared parameters (Json.ofInt? value) := by
  cases value with
  | none => exact .null
  | some value => exact .int value

theorem isDeclared_dump? (token : Option Token) : IsDeclared parameters (Token.dump? token) := by
  cases token with
  | none => exact .null
  | some token => exact .str token.symbol

theorem isDeclared_parameters : IsDeclared parameters (Json.ofOption .obj parameters) := by
  cases parameters with
  | none => exact .null
  | some fields => exact .obj rfl

end

theorem Role.isDeclared (role : Role) : ∀ value ∈ role.values, IsDeclared role.parameters value := by
  match role with
  | .start own =>
    simp [Role.values, Start.values, IsDeclared.int, IsDeclared.str, isDeclared_ofString?]
  | .action (.bridge own) estimate =>
    simp [Role.values, Work.values, Estimate.values, Bridge.values, IsDeclared.int, IsDeclared.str,
      isDeclared_ofString?, isDeclared_ofInt?, isDeclared_dump?]
  | .action (.transfer own) estimate =>
    simp [Role.values, Work.values, Estimate.values, Transfer.values, IsDeclared.str,
      isDeclared_ofString?, isDeclared_ofInt?, isDeclared_dump?]
  | .action (.call own) estimate =>
    simp [Role.values, Role.parameters, Work.values, Estimate.values, ContractCall.values,
      IsDeclared.str, isDeclared_ofString?, isDeclared_ofInt?, isDeclared_dump?,
      isDeclared_parameters]
  | .finish own =>
    simp [Role.values, Finish.values, isDeclared_ofString?, isDeclared_ofInt?, isDeclared_dump?]

namespace Node

/-- What every node is that was read. -/
structure IsRead (node : Node) : Prop where
  overrides : node.payloadOverrides = []
  id : IsJoined node.id.toList
  place : node.place.x.IsCanonical ∧ node.place.y.IsCanonical
  label : IsJoined node.label.toList
  role : ItemsProper node.role.values
  payload : AreLeft node.kind.labels node.payloadExtras
  extras : AreLeft Node.labels node.extras

/-- Whether no undeclared field of the payload has the plain name of a declared one that is null. -/
def Unshadowed (node : Node) : Prop := Schema.Unshadowed node.declared node.payloadExtras

/-- A node as a document keeps it. -/
def documented (node : Node) : Node where
  id := node.id
  place := node.place
  label := node.label
  badge := node.badge
  role := node.role.documented
  payloadExtras := Schema.documented node.payloadExtras
  payloadOverrides := node.payloadOverrides
  extras := Schema.documented node.extras

/-- The values of the declared fields of a payload. -/
def values (node : Node) : List Json :=
  [.str node.label, .ofOption (fun badge => .str badge.word) node.badge] ++ node.role.values

variable {node : Node}

theorem kind_documented (node : Node) : node.documented.kind = node.kind :=
  node.role.kind_documented

theorem declared_of_overrides (none : node.payloadOverrides = []) :
    node.declared = node.kind.labels.zip node.values := by
  unfold declared
  rw [none]
  exact List.map_id _

theorem values_documented (node : Node) : node.documented.values = node.values.map Json.finite := by
  have badge : (Json.ofOption (fun badge : Badge => .str badge.word) node.badge).finite =
      Json.ofOption (fun badge => .str badge.word) node.badge := finite_ofOption (fun _ => rfl) _
  simp only [values, documented, List.map_append, List.map_cons, List.map_nil, badge,
    Role.values_documented]
  rfl

theorem map_fst_declared (none : node.payloadOverrides = []) :
    node.declared.map (·.1) = node.kind.labels := by
  have lengths : node.kind.labels.length ≤ node.values.length := by
    have own := node.role.length_values
    rw [Kind.labels_eq, values, List.length_append, List.length_append]
    exact Nat.add_le_add_left own.le 2
  rw [declared_of_overrides none]
  exact List.map_fst_zip lengths

theorem declared_documented (none : node.payloadOverrides = []) :
    node.documented.declared = node.declared.map fun field => (field.1, field.2.finite) := by
  have same : node.documented.payloadOverrides = [] := none
  rw [declared_of_overrides none, declared_of_overrides same, kind_documented, values_documented,
    List.zip_map_right]
  rfl

theorem isDeclared (node : Node) : ∀ value ∈ node.values, IsDeclared node.role.parameters value := by
  have badge : IsDeclared node.role.parameters
      (Json.ofOption (fun badge => .str badge.word) node.badge) := by
    cases node.badge with
    | none => exact .null
    | some badge => exact .str badge.word
  intro value member
  rcases List.mem_append.mp member with own | role
  · simp only [List.mem_cons, List.not_mem_nil, or_false] at own
    rcases own with rfl | rfl
    · exact .str node.label
    · exact badge
  · exact node.role.isDeclared value role

theorem finite_eq_null (none : node.payloadOverrides = []) :
    ∀ field ∈ node.declared, field.2.finite = .null → field.2 = .null := by
  rw [declared_of_overrides none]
  intro field member finite
  have declared := node.isDeclared field.2 (List.of_mem_zip member).2
  generalize field.2 = value at declared finite
  cases declared with
  | null => rfl
  | int => cases finite
  | str => cases finite
  | obj => cases finite

/-! ## Payloads -/

theorem map_fst_documented (isRead : node.IsRead) :
    node.documented.declared.map (·.1) = node.kind.labels := by
  have same : node.documented.payloadOverrides = [] := isRead.overrides
  rw [map_fst_declared same, kind_documented]

theorem wellNamed_documented (isRead : node.IsRead) :
    WellNamed (node.documented.declared.map (·.1)) := by
  rw [map_fst_documented isRead]
  exact node.kind.wellNamed_labels

theorem areLeft_documented (isRead : node.IsRead) :
    AreLeft (node.documented.declared.map (·.1)) node.payloadExtras := by
  rw [map_fst_documented isRead]
  exact isRead.payload

def payloadFields (node : Node) : Fields :=
  wireFields node.documented.declared ++ Schema.documented node.payloadExtras

theorem dumpPayload_eq (isRead : node.IsRead) :
    node.dumpPayload .document = .obj node.payloadFields := by
  -- A payload is written as if none of its fields had a type.
  have written : Style.document.untypedFields (Style.document.kept
      (node.declared.map fun field => (Style.document.name field.1, field.2))) =
        wireFields node.documented.declared := by
    rw [declared_documented isRead.overrides]
    exact documented_eq_wireFields (finite_eq_null isRead.overrides)
  have distinct := nodup_record (wellNamed_documented isRead) (areLeft_documented isRead).documented
  unfold dumpPayload
  rw [written]
  exact congrArg Json.obj (Fields.merge_of_nodup distinct)

theorem unshadowed_documented_iff (isRead : node.IsRead) :
    Schema.Unshadowed node.documented.declared node.payloadExtras ↔ node.Unshadowed := by
  rw [declared_documented isRead.overrides]
  constructor
  · intro unshadowed field isDeclared none
    refine unshadowed (field.1, field.2.finite) (List.mem_map_of_mem isDeclared) ?_
    rw [none]
    rfl
  · intro unshadowed field member none
    obtain ⟨own, isDeclared, rfl⟩ := List.mem_map.mp member
    exact unshadowed own isDeclared (finite_eq_null isRead.overrides own isDeclared none)

theorem openFields_payloadFields (isRead : node.IsRead) :
    openFields node.payloadFields = .ok node.payloadFields :=
  openFields_of_whole (whole_record (wellNamed_documented isRead) (areLeft_documented isRead))

theorem stands_payloadFields (isRead : node.IsRead) (unshadowed : node.Unshadowed) :
    Stands node.payloadFields ([.same "label", .same "status"] ++ node.kind.roleLabels)
      node.documented.values := by
  have same : node.documented.payloadOverrides = [] := isRead.overrides
  have free := (unshadowed_documented_iff isRead).mpr unshadowed
  refine stands_of_forall fun field member => Label.valueIn_of_shown ?_
  refine found?_of_declared (wellNamed_documented isRead) (areLeft_documented isRead) free ?_
  rw [declared_of_overrides same, Kind.labels_eq, kind_documented]
  exact member

theorem roleRead_payloadFields (isRead : node.IsRead) (unshadowed : node.Unshadowed) :
    Role.read node.kind node.payloadFields = .ok node.role.documented := by
  obtain ⟨-, -, role⟩ := stands_payloadFields isRead unshadowed
  have own : Role.read node.role.documented.kind node.payloadFields = .ok node.role.documented := by
    refine Role.read_of_stands ?_
    rw [Role.kind_documented]
    exact role
  rw [Role.kind_documented] at own
  exact own

theorem read_dumpPayload (isRead : node.IsRead) (unshadowed : node.Unshadowed) :
    Payload.read .document node.kind (node.dumpPayload .document) =
      .ok ⟨node.label, node.badge, node.role.documented, Schema.documented node.payloadExtras⟩ := by
  have free := (unshadowed_documented_iff isRead).mpr unshadowed
  have extras : Schema.extras node.payloadFields (node.documented.declared.map (·.1)) =
      Schema.documented node.payloadExtras :=
    extras_of_declared (wellNamed_documented isRead) (areLeft_documented isRead) free
  obtain ⟨label, badge, -⟩ := stands_payloadFields isRead unshadowed
  rw [map_fst_documented isRead] at extras
  rw [dumpPayload_eq isRead]
  unfold Payload.read
  simp only [object, Reading.andThen, openFields_payloadFields isRead]
  rw [rereads_text.withDefault "" label, rereads_badge.optional badge,
    roleRead_payloadFields isRead unshadowed, extras]
  rfl

theorem kept_of_read_dumpPayload (isRead : node.IsRead) {payload : Payload}
    (reading : Payload.read .document node.kind (node.dumpPayload .document) = .ok payload)
    (role : payload.role = node.role) (extras : payload.extras = node.payloadExtras) :
    Schema.IsKept node.payloadExtras ∧ node.Unshadowed ∧ node.role.documented = node.role := by
  rw [dumpPayload_eq isRead] at reading
  unfold Payload.read at reading
  simp only [object, Reading.andThen, openFields_payloadFields isRead] at reading
  obtain ⟨_, own, two, roleRead, rfl⟩ := Reading.apply_eq_ok_iff.mp reading
  obtain ⟨_, badge, one, badgeRead, rfl⟩ := Reading.apply_eq_ok_iff.mp two
  obtain ⟨label, labelRead, rfl⟩ := Reading.map_eq_ok_iff.mp one
  dsimp only at role extras
  rw [← map_fst_documented isRead] at extras
  obtain ⟨kept, free⟩ :=
    kept_of_extras (wellNamed_documented isRead) (areLeft_documented isRead) extras
  have unshadowed := (unshadowed_documented_iff isRead).mp free
  have again : Reading.ok own = .ok node.role.documented :=
    roleRead.symm.trans (roleRead_payloadFields isRead unshadowed)
  injection again with same
  exact ⟨kept, unshadowed, same.symm.trans role⟩

/-! ## Nodes -/

/-- The declared fields of a node, with their values in a document. -/
def outer (node : Node) : List (Label × Json) :=
  [(.same "id", .str node.id), (.same "position", dumpPlace node.place),
    (.same "type", .str node.kind.tag), (.same "data", node.dumpPayload .document)]

theorem dump_eq (isRead : node.IsRead) :
    node.dump .document = .obj (wireFields node.outer ++ Schema.documented node.extras) :=
  record_eq Node.wellNamed_labels isRead.extras

/-- Beside its payload, a node reads back as the document keeps it. -/
theorem read_dump_eq (isRead : node.IsRead) :
    Node.read .document (node.dump .document) =
      (((Payload.read .document node.kind (node.dumpPayload .document)).under (.field "data")).map
        fun payload => (⟨node.id, node.place, payload.label, payload.badge, payload.role,
          payload.extras, [], Schema.documented node.extras⟩ : Node)).under (.tag node.kind.tag) := by
  have left : AreLeft (node.outer.map (·.1)) node.extras := isRead.extras
  have wellNamed : WellNamed (node.outer.map (·.1)) := Node.wellNamed_labels
  have free : Schema.Unshadowed node.outer node.extras :=
    unshadowed_of_same left (by simp [outer, Label.same])
  have shown : Shown (wireFields node.outer ++ Schema.documented node.extras) Node.labels
      [.str node.id, dumpPlace node.place, .str node.kind.tag, node.dumpPayload .document] :=
    shown_of_forall fun field member => found?_of_declared wellNamed left free member
  have whole := openFields_of_whole (whole_record wellNamed left)
  have extras : Schema.extras (wireFields node.outer ++ Schema.documented node.extras) Node.labels =
      Schema.documented node.extras := extras_of_declared wellNamed left free
  have tag : Fields.get? (wireFields node.outer ++ Schema.documented node.extras) "type" =
      some (.str node.kind.tag) := by
    refine Fields.get?_of_mem (nodup_record wellNamed left.documented) (List.mem_append_left _ ?_)
    exact mem_wireFields.mpr ⟨⟨.same "type", by simp [outer], rfl⟩, nofun⟩
  obtain ⟨id, place, -, data, -⟩ := shown
  have position : withDefault (wireFields node.outer ++ Schema.documented node.extras)
      (.same "position") Place.origin (Place.read .document) = .ok node.place := by
    unfold withDefault
    rw [place]
    rfl
  have payload : required (wireFields node.outer ++ Schema.documented node.extras) (.same "data")
      (Payload.read .document node.kind) =
        (Payload.read .document node.kind (node.dumpPayload .document)).under (.field "data") := by
    unfold required
    rw [data, dumpPayload_eq isRead]
    rfl
  rw [dump_eq isRead]
  unfold Node.read
  simp only [tag, Kind.ofTag?_tag]
  unfold Node.readFields
  simp only [whole, Reading.andThen]
  rw [rereads_text.required (Label.valueIn_of_shown id), position, payload, extras]
  generalize (Payload.read .document node.kind (node.dumpPayload .document)).under (.field "data") =
    reading
  cases reading <;> rfl

theorem read_dump (isRead : node.IsRead) (unshadowed : node.Unshadowed) :
    Node.read .document (node.dump .document) = .ok node.documented := by
  rw [read_dump_eq isRead, read_dumpPayload isRead unshadowed]
  unfold documented
  rw [isRead.overrides]
  rfl

/-- A node that a document keeps as it is. -/
structure IsKept (node : Node) : Prop where
  extras : Schema.IsKept node.extras
  payload : Schema.IsKept node.payloadExtras
  parameters : ∀ fields, node.role.parameters = some fields → Json.fieldsFinite fields = true
  unshadowed : node.Unshadowed

theorem IsKept.documented_eq_self (kept : node.IsKept) : node.documented = node := by
  unfold documented
  rw [Schema.documented_eq_self kept.extras, Schema.documented_eq_self kept.payload,
    node.role.documented_eq_self_iff.mpr kept.parameters]

theorem isKept_of_read_dump (isRead : node.IsRead)
    (reading : Node.read .document (node.dump .document) = .ok node) : node.IsKept := by
  rw [read_dump_eq isRead] at reading
  obtain ⟨payload, payloadRead, same⟩ :=
    Reading.map_eq_ok_iff.mp (Reading.under_eq_ok_iff.mp reading)
  have extras : Schema.documented node.extras = node.extras := congrArg Node.extras same
  obtain ⟨kept, unshadowed, parameters⟩ :=
    kept_of_read_dumpPayload isRead (Reading.under_eq_ok_iff.mp payloadRead) (congrArg Node.role same)
      (congrArg Node.payloadExtras same)
  exact {
    extras := isKept_of_documented isRead.extras.distinct extras
    payload := kept
    parameters := node.role.documented_eq_self_iff.mp parameters
    unshadowed := unshadowed }

/-! ## What is written -/

theorem isProper_dumpPlace {place : Place} (x : place.x.IsCanonical) (y : place.y.IsCanonical) :
    (dumpPlace place).IsProper := by
  have names : ["x", "y"].Nodup := by decide
  have first : IsJoined "x".toList := by decide
  have second : IsJoined "y".toList := by decide
  exact ⟨names, first, x, second, y, trivial⟩

theorem isProper_values (isRead : node.IsRead) : ∀ value ∈ node.values, value.IsProper := by
  have badge : (Json.ofOption (fun badge : Badge => .str badge.word) node.badge).IsProper := by
    cases node.badge with
    | none => trivial
    | some badge => exact isJoined_badge badge
  have base : ItemsProper [.str node.label, .ofOption (fun badge => .str badge.word) node.badge] :=
    ⟨isRead.label, badge, trivial⟩
  intro value member
  rcases List.mem_append.mp member with own | role
  · exact Json.itemsProper_iff.mp base value own
  · exact Json.itemsProper_iff.mp isRead.role value role

theorem isProper_dumpPayload (isRead : node.IsRead) : (node.dumpPayload .document).IsProper := by
  have same : node.documented.payloadOverrides = [] := isRead.overrides
  rw [dumpPayload_eq isRead]
  refine isProper_record (wellNamed_documented isRead) (areLeft_documented isRead)
    fun field member => ?_
  rw [declared_of_overrides same, values_documented] at member
  obtain ⟨value, isValue, finite⟩ := List.mem_map.mp (List.of_mem_zip member).2
  rw [← finite]
  exact Json.isProper_finite (isProper_values isRead value isValue)

theorem isJoined_tag (kind : Kind) : IsJoined kind.tag.toList := by
  cases kind <;> decide

theorem isProper_dump (isRead : node.IsRead) : (node.dump .document).IsProper := by
  have place := isProper_dumpPlace isRead.place.1 isRead.place.2
  rw [dump_eq isRead]
  refine isProper_record Node.wellNamed_labels isRead.extras ?_
  simp only [outer, List.forall_mem_cons, List.not_mem_nil, false_imp_iff, implies_true, and_true]
  exact ⟨isRead.id, place, isJoined_tag node.kind, isProper_dumpPayload isRead⟩

theorem levels_value_le (fits : node.role.parameters.all Schema.fitsLevels = true) :
    ∀ value ∈ node.values, value.levels ≤ levelLimit + 1 := by
  intro value member
  cases node.isDeclared value member with
  | null => exact Nat.le_add_left 1 levelLimit
  | int => exact Nat.le_add_left 1 levelLimit
  | str => exact Nat.le_add_left 1 levelLimit
  | obj given =>
      rw [given, Option.all_some] at fits
      exact Nat.succ_le_succ (levelsOfFields_le_iff.mpr (levels_le_of_fitsLevels fits))

theorem parameters_of_call? (node : Node) :
    node.call?.bind (·.parameters) = node.role.parameters := by
  unfold call?
  generalize node.role = role
  match role with
  | .start _ => rfl
  | .action (.bridge _) _ => rfl
  | .action (.transfer _) _ => rfl
  | .action (.call _) _ => rfl
  | .finish _ => rfl

theorem levels_dumpPayload_le (isRead : node.IsRead)
    (parameters : node.role.parameters.all Schema.fitsLevels = true)
    (extras : Schema.fitsLevels node.payloadExtras = true) :
    (node.dumpPayload .document).levels ≤ levelLimit + 2 := by
  have same : node.documented.payloadOverrides = [] := isRead.overrides
  rw [dumpPayload_eq isRead]
  refine levels_record_le (fun field member => ?_) fun field member => ?_
  · rw [declared_of_overrides same, values_documented] at member
    obtain ⟨value, isValue, finite⟩ := List.mem_map.mp (List.of_mem_zip member).2
    rw [← finite, Json.levels_finite]
    exact levels_value_le parameters value isValue
  · exact Nat.le_succ_of_le (levels_le_of_fitsLevels extras field member)

theorem levels_dump_le (isRead : node.IsRead) (fits : node.fitsLevels = true) :
    (node.dump .document).levels ≤ levelLimit + 3 := by
  rw [fitsLevels, Bool.and_eq_true, Bool.and_eq_true, parameters_of_call?] at fits
  obtain ⟨⟨extras, payload⟩, parameters⟩ := fits
  have data := levels_dumpPayload_le isRead parameters payload
  rw [dump_eq isRead]
  refine levels_record_le ?_ fun field member => ?_
  · simp only [outer, List.forall_mem_cons, List.not_mem_nil, false_imp_iff, implies_true, and_true]
    exact ⟨Nat.le_add_left 1 _, Nat.le_add_left 2 levelLimit, Nat.le_add_left 1 _, data⟩
  · exact (levels_le_of_fitsLevels extras field member).trans (Nat.le_add_right levelLimit 2)

/-! ## What is read -/

theorem staysProper_place (source : Source) : StaysProper (Place.read source) dumpPlace := by
  constructor
  intro value place proper reading
  cases value with
  | obj fields =>
      obtain ⟨_, y, one, yRead, rfl⟩ := Reading.apply_eq_ok_iff.mp reading
      obtain ⟨x, xRead, rfl⟩ := Reading.map_eq_ok_iff.mp one
      have zero : (Json.float (.zero false)).IsProper := Binary64.IsCanonical.zero false
      exact isProper_dumpPlace (staysProper_float.withDefault proper.2 zero xRead)
        (staysProper_float.withDefault proper.2 zero yRead)
  | _ => cases source <;> cases reading

theorem payload_of_read {source : Source} {kind : Kind} {value : Json} {payload : Payload}
    (proper : value.IsProper) (reading : Payload.read source kind value = .ok payload) :
    IsJoined payload.label.toList ∧ payload.role.kind = kind ∧ ItemsProper payload.role.values ∧
      AreLeft kind.labels payload.extras := by
  cases value with
  | obj fields =>
      unfold Payload.read at reading
      simp only [object, Reading.andThen] at reading
      split at reading
      · next result opened =>
          obtain ⟨rfl, whole⟩ := eq_of_openFields opened
          obtain ⟨_, role, two, roleRead, rfl⟩ := Reading.apply_eq_ok_iff.mp reading
          obtain ⟨_, badge, one, badgeRead, rfl⟩ := Reading.apply_eq_ok_iff.mp two
          obtain ⟨label, labelRead, rfl⟩ := Reading.map_eq_ok_iff.mp one
          have empty : (Json.str "").IsProper := List.isChain_nil
          have part := Role.proper_of_read proper.2 roleRead
          exact ⟨staysProper_text.withDefault proper.2 empty labelRead, part.1, part.2,
            areLeft_extras proper whole kind.labels⟩
      · cases reading
  | _ => cases source <;> cases reading

theorem isRead_of_readFields {source : Source} {kind : Kind} {fields : Fields}
    (proper : (Json.obj fields).IsProper)
    (reading : Node.readFields source kind fields = .ok node) : node.IsRead := by
  unfold Node.readFields at reading
  simp only [Reading.andThen] at reading
  split at reading
  · next result opened =>
      obtain ⟨rfl, whole⟩ := eq_of_openFields opened
      obtain ⟨_, payload, two, payloadRead, rfl⟩ := Reading.apply_eq_ok_iff.mp reading
      obtain ⟨_, place, one, placeRead, rfl⟩ := Reading.apply_eq_ok_iff.mp two
      obtain ⟨id, idRead, rfl⟩ := Reading.map_eq_ok_iff.mp one
      obtain ⟨data, isProper, dataRead⟩ := exists_of_required proper.2 payloadRead
      obtain ⟨label, sameKind, role, left⟩ := payload_of_read isProper dataRead
      have origin : (dumpPlace .origin).IsProper :=
        isProper_dumpPlace (.zero false) (.zero false)
      have position := (staysProper_place source).withDefault proper.2 origin placeRead
      obtain ⟨-, -, x, -, y, -⟩ := position
      exact {
        overrides := rfl
        id := staysProper_text.required proper.2 idRead
        place := ⟨x, y⟩
        label := label
        role := role
        payload := by
          change AreLeft payload.role.kind.labels payload.extras
          rw [sameKind]
          exact left
        extras := areLeft_extras proper whole Node.labels }
  · cases reading

/-- What every node is that was read from a proper value. -/
theorem isRead_of_read {source : Source} {value : Json} (proper : value.IsProper)
    (reading : Node.read source value = .ok node) : node.IsRead := by
  unfold Node.read at reading
  split at reading
  · next fields =>
      split at reading
      · cases reading
      · split at reading
        · split at reading
          · next kind _ =>
              exact isRead_of_readFields proper (Reading.under_eq_ok_iff.mp reading)
          · cases reading
        · cases reading
  · cases reading

end Node

end ChainFlow

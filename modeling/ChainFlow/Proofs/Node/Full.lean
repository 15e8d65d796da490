import ChainFlow.Proofs.Node.Document
import ChainFlow.Proofs.Schema.Plain

/-!
# Nodes in full

A node that was read and is written with its null fields reads back as it was, if the style loses no
undeclared field and gives no declared one the name of an undeclared one (`Node.read_dump_full`).
-/

namespace ChainFlow

open Schema

theorem Role.kind_of_read {kind : Kind} {fields : Fields} {role : Role}
    (reading : Role.read kind fields = .ok role) : role.kind = kind := by
  cases kind with
  | start =>
      obtain ⟨own, -, rfl⟩ := Reading.map_eq_ok_iff.mp reading
      rfl
  | finish =>
      obtain ⟨own, -, rfl⟩ := Reading.map_eq_ok_iff.mp reading
      rfl
  | bridge =>
      obtain ⟨_, work, one, workRead, rfl⟩ := Reading.apply_eq_ok_iff.mp reading
      obtain ⟨estimate, -, rfl⟩ := Reading.map_eq_ok_iff.mp one
      obtain ⟨own, -, rfl⟩ := Reading.map_eq_ok_iff.mp workRead
      rfl
  | transfer =>
      obtain ⟨_, work, one, workRead, rfl⟩ := Reading.apply_eq_ok_iff.mp reading
      obtain ⟨estimate, -, rfl⟩ := Reading.map_eq_ok_iff.mp one
      obtain ⟨own, -, rfl⟩ := Reading.map_eq_ok_iff.mp workRead
      rfl
  | call =>
      obtain ⟨_, work, one, workRead, rfl⟩ := Reading.apply_eq_ok_iff.mp reading
      obtain ⟨estimate, -, rfl⟩ := Reading.map_eq_ok_iff.mp one
      obtain ⟨own, -, rfl⟩ := Reading.map_eq_ok_iff.mp workRead
      rfl

/-- The parameters of a call stand in the fields that it was read from. -/
theorem Role.parameters_of_read {kind : Kind} {fields parameters : Fields} {role : Role}
    (reading : Role.read kind fields = .ok role) (given : role.parameters = some parameters) :
    ∃ field ∈ fields, field.2 = .obj parameters := by
  have sameKind := Role.kind_of_read reading
  match role with
  | .start _ => cases given
  | .finish _ => cases given
  | .action (.bridge _) _ => cases given
  | .action (.transfer _) _ => cases given
  | .action (.call call) estimate =>
    subst sameKind
    obtain ⟨_, work, one, workRead, same⟩ := Reading.apply_eq_ok_iff.mp reading
    obtain ⟨_, -, rfl⟩ := Reading.map_eq_ok_iff.mp one
    obtain ⟨own, ownRead, rfl⟩ := Reading.map_eq_ok_iff.mp workRead
    cases same
    obtain ⟨_, parameters, five, parametersRead, rfl⟩ := Reading.apply_eq_ok_iff.mp ownRead
    obtain ⟨_, contract, four, -, rfl⟩ := Reading.apply_eq_ok_iff.mp five
    obtain ⟨_, token, three, -, rfl⟩ := Reading.apply_eq_ok_iff.mp four
    obtain ⟨_, chain, two, -, rfl⟩ := Reading.apply_eq_ok_iff.mp three
    obtain ⟨_, amount, one, -, rfl⟩ := Reading.apply_eq_ok_iff.mp two
    obtain ⟨action, -, rfl⟩ := Reading.map_eq_ok_iff.mp one
    obtain rfl : parameters = some _ := given
    obtain ⟨field, member, isRead⟩ := mem_of_optional parametersRead
    refine ⟨field, member, ?_⟩
    generalize field.2 = value at isRead
    cases value with
    | obj own =>
        cases isRead
        rfl
    | _ => cases isRead

/-! ## Nulls that were read -/

section

variable {fields : Fields}

theorem text_null_ne (value : String) : text .null ≠ .ok value := by
  intro reading
  cases reading

theorem integer_null_ne (value : Int) : integer .null ≠ .ok value := by
  intro reading
  cases reading

theorem choice_null_ne {α : Type} {allowed : List String} {find : String → Option α} (value : α) :
    choice allowed find .null ≠ .ok value := by
  intro reading
  cases reading

theorem tells_of_text {label : Label} {value : String}
    (reading : required fields label text = .ok value) : label.Tells fields (.str value) :=
  rereads_text.tells_of_required text_null_ne reading

theorem Start.tell_of_read {start : Start} (reading : Start.read fields = .ok start) :
    Tell fields Start.labels start.values := by
  obtain ⟨_, address, three, addressRead, rfl⟩ := Reading.apply_eq_ok_iff.mp reading
  obtain ⟨_, amount, two, amountRead, rfl⟩ := Reading.apply_eq_ok_iff.mp three
  obtain ⟨_, token, one, tokenRead, rfl⟩ := Reading.apply_eq_ok_iff.mp two
  obtain ⟨chain, chainRead, rfl⟩ := Reading.map_eq_ok_iff.mp one
  exact ⟨rereads_integer.tells_of_required integer_null_ne chainRead,
    rereads_token.tells_of_required choice_null_ne tokenRead,
    rereads_text.tells_of_optional amountRead, rereads_text.tells_of_optional addressRead, trivial⟩

theorem Bridge.tell_of_read {bridge : Bridge} (reading : Bridge.read fields = .ok bridge) :
    Tell fields Bridge.labels bridge.values := by
  obtain ⟨_, token, three, tokenRead, rfl⟩ := Reading.apply_eq_ok_iff.mp reading
  obtain ⟨_, fromChain, two, fromRead, rfl⟩ := Reading.apply_eq_ok_iff.mp three
  obtain ⟨_, amount, one, amountRead, rfl⟩ := Reading.apply_eq_ok_iff.mp two
  obtain ⟨toChain, toRead, rfl⟩ := Reading.map_eq_ok_iff.mp one
  exact ⟨rereads_integer.tells_of_required integer_null_ne toRead,
    tells_of_text amountRead, rereads_integer.tells_of_optional fromRead,
    rereads_token.tells_of_optional tokenRead, trivial⟩

theorem Transfer.tell_of_read {transfer : Transfer} (reading : Transfer.read fields = .ok transfer) :
    Tell fields Transfer.labels transfer.values := by
  obtain ⟨_, token, three, tokenRead, rfl⟩ := Reading.apply_eq_ok_iff.mp reading
  obtain ⟨_, chain, two, chainRead, rfl⟩ := Reading.apply_eq_ok_iff.mp three
  obtain ⟨_, recipient, one, recipientRead, rfl⟩ := Reading.apply_eq_ok_iff.mp two
  obtain ⟨amount, amountRead, rfl⟩ := Reading.map_eq_ok_iff.mp one
  exact ⟨tells_of_text amountRead, tells_of_text recipientRead,
    rereads_integer.tells_of_optional chainRead, rereads_token.tells_of_optional tokenRead, trivial⟩

theorem ContractCall.tell_of_read {call : ContractCall}
    (reading : ContractCall.read fields = .ok call) : Tell fields ContractCall.labels call.values := by
  obtain ⟨_, parameters, five, parametersRead, rfl⟩ := Reading.apply_eq_ok_iff.mp reading
  obtain ⟨_, contract, four, contractRead, rfl⟩ := Reading.apply_eq_ok_iff.mp five
  obtain ⟨_, token, three, tokenRead, rfl⟩ := Reading.apply_eq_ok_iff.mp four
  obtain ⟨_, chain, two, chainRead, rfl⟩ := Reading.apply_eq_ok_iff.mp three
  obtain ⟨_, amount, one, amountRead, rfl⟩ := Reading.apply_eq_ok_iff.mp two
  obtain ⟨action, actionRead, rfl⟩ := Reading.map_eq_ok_iff.mp one
  exact ⟨rereads_action.tells_of_required choice_null_ne actionRead,
    tells_of_text amountRead, rereads_integer.tells_of_optional chainRead,
    rereads_token.tells_of_optional tokenRead, rereads_text.tells_of_optional contractRead,
    rereads_dictionary.tells_of_optional parametersRead, trivial⟩

theorem Finish.tell_of_read {finish : Finish} (reading : Finish.read fields = .ok finish) :
    Tell fields Finish.labels finish.values := by
  obtain ⟨_, description, three, descriptionRead, rfl⟩ := Reading.apply_eq_ok_iff.mp reading
  obtain ⟨_, amount, two, amountRead, rfl⟩ := Reading.apply_eq_ok_iff.mp three
  obtain ⟨_, token, one, tokenRead, rfl⟩ := Reading.apply_eq_ok_iff.mp two
  obtain ⟨chain, chainRead, rfl⟩ := Reading.map_eq_ok_iff.mp one
  exact ⟨rereads_integer.tells_of_optional chainRead, rereads_token.tells_of_optional tokenRead,
    rereads_text.tells_of_optional amountRead, rereads_text.tells_of_optional descriptionRead, trivial⟩

theorem Estimate.tell_of_read {estimate : Estimate} (reading : Estimate.read fields = .ok estimate) :
    Tell fields Estimate.labels estimate.values := by
  obtain ⟨_, seconds, one, secondsRead, rfl⟩ := Reading.apply_eq_ok_iff.mp reading
  obtain ⟨cost, costRead, rfl⟩ := Reading.map_eq_ok_iff.mp one
  exact ⟨rereads_text.tells_of_optional costRead, rereads_integer.tells_of_optional secondsRead,
    trivial⟩

/-- The values of a part in the flow that was read are null where nulls stood for them. -/
theorem Role.tell_of_read {kind : Kind} {role : Role} (reading : Role.read kind fields = .ok role) :
    Tell fields kind.roleLabels role.values := by
  cases kind with
  | start =>
      obtain ⟨own, ownRead, rfl⟩ := Reading.map_eq_ok_iff.mp reading
      exact Start.tell_of_read ownRead
  | bridge =>
      obtain ⟨_, work, one, workRead, rfl⟩ := Reading.apply_eq_ok_iff.mp reading
      obtain ⟨estimate, estimateRead, rfl⟩ := Reading.map_eq_ok_iff.mp one
      obtain ⟨own, ownRead, rfl⟩ := Reading.map_eq_ok_iff.mp workRead
      obtain ⟨cost, seconds, -⟩ := Estimate.tell_of_read estimateRead
      exact ⟨cost, seconds, Bridge.tell_of_read ownRead⟩
  | transfer =>
      obtain ⟨_, work, one, workRead, rfl⟩ := Reading.apply_eq_ok_iff.mp reading
      obtain ⟨estimate, estimateRead, rfl⟩ := Reading.map_eq_ok_iff.mp one
      obtain ⟨own, ownRead, rfl⟩ := Reading.map_eq_ok_iff.mp workRead
      obtain ⟨cost, seconds, -⟩ := Estimate.tell_of_read estimateRead
      exact ⟨cost, seconds, Transfer.tell_of_read ownRead⟩
  | call =>
      obtain ⟨_, work, one, workRead, rfl⟩ := Reading.apply_eq_ok_iff.mp reading
      obtain ⟨estimate, estimateRead, rfl⟩ := Reading.map_eq_ok_iff.mp one
      obtain ⟨own, ownRead, rfl⟩ := Reading.map_eq_ok_iff.mp workRead
      obtain ⟨cost, seconds, -⟩ := Estimate.tell_of_read estimateRead
      exact ⟨cost, seconds, ContractCall.tell_of_read ownRead⟩
  | finish =>
      obtain ⟨own, ownRead, rfl⟩ := Reading.map_eq_ok_iff.mp reading
      exact Finish.tell_of_read ownRead

end

/-- The values of the declared fields of a payload. -/
def Payload.values (payload : Payload) : List Json :=
  [.str payload.label, .ofOption (fun badge => .str badge.word) payload.badge] ++ payload.role.values

namespace Node

/-! ## What a node was read from -/

/-- The fields that a node and its payload were read from, and what it has from them beside its
declared values. -/
structure Origin (node : Node) (fields payload : Fields) : Prop where
  data : ("data", .obj payload) ∈ fields
  whole : ∀ field ∈ fields, Text.hasLone field.1 = false
  wholePayload : ∀ field ∈ payload, Text.hasLone field.1 = false
  extras : node.extras = Schema.extras fields Node.labels
  payloadExtras : node.payloadExtras = Schema.extras payload node.kind.labels
  overrides : node.payloadOverrides = []
  parameters : ∀ {parameters}, node.role.parameters = some parameters →
    ∃ field ∈ payload, field.2 = .obj parameters

theorem origin_of_readPayload {source : Source} {kind : Kind} {value : Json} {payload : Payload}
    (reading : Payload.read source kind value = .ok payload) :
    ∃ fields, value = .obj fields ∧ (∀ field ∈ fields, Text.hasLone field.1 = false) ∧
      payload.role.kind = kind ∧ payload.extras = Schema.extras fields kind.labels ∧
      Tell fields kind.labels payload.values ∧
      ∀ {parameters}, payload.role.parameters = some parameters →
        ∃ field ∈ fields, field.2 = .obj parameters := by
  cases value with
  | obj fields =>
      unfold Payload.read at reading
      simp only [object, Reading.andThen] at reading
      split at reading
      · next result opened =>
          obtain ⟨rfl, whole⟩ := eq_of_openFields opened
          obtain ⟨_, role, two, roleRead, rfl⟩ := Reading.apply_eq_ok_iff.mp reading
          obtain ⟨_, badge, one, badgeRead, rfl⟩ := Reading.apply_eq_ok_iff.mp two
          obtain ⟨label, labelRead, rfl⟩ := Reading.map_eq_ok_iff.mp one
          refine ⟨_, rfl, whole, Role.kind_of_read roleRead, rfl, ?_,
            Role.parameters_of_read roleRead⟩
          rw [Kind.labels_eq]
          exact ⟨rereads_text.tells_of_withDefault text_null_ne labelRead,
            rereads_badge.tells_of_optional badgeRead, Role.tell_of_read roleRead⟩
      · cases reading
  | _ => cases source <;> cases reading

theorem origin_of_read {source : Source} {value : Json} {node : Node}
    (reading : Node.read source value = .ok node) :
    ∃ fields payload, value = .obj fields ∧ node.Origin fields payload := by
  unfold Node.read at reading
  split at reading
  · next fields =>
      split at reading
      · cases reading
      · split at reading
        · split at reading
          · next kind _ =>
              have isRead := Reading.under_eq_ok_iff.mp reading
              unfold Node.readFields at isRead
              simp only [Reading.andThen] at isRead
              split at isRead
              · next result opened =>
                  obtain ⟨rfl, whole⟩ := eq_of_openFields opened
                  obtain ⟨_, payload, two, payloadRead, rfl⟩ := Reading.apply_eq_ok_iff.mp isRead
                  obtain ⟨_, place, one, -, rfl⟩ := Reading.apply_eq_ok_iff.mp two
                  obtain ⟨id, -, rfl⟩ := Reading.map_eq_ok_iff.mp one
                  obtain ⟨⟨_, _⟩, member, named, dataRead⟩ := mem_of_required payloadRead
                  obtain ⟨data, rfl, wholePayload, sameKind, extras, -, parameters⟩ :=
                    origin_of_readPayload dataRead
                  obtain rfl := or_self_iff.mp named
                  rw [← sameKind] at extras
                  exact ⟨_, data, rfl, {
                    data := member
                    whole := whole
                    wholePayload := wholePayload
                    extras := rfl
                    payloadExtras := extras
                    overrides := rfl
                    parameters := parameters }⟩
              · cases isRead
          · cases reading
        · cases reading
  · cases reading

/-! ## What every node is that was read -/

/-- What every node is that was read from fields in which no name is repeated. -/
structure IsFormed (node : Node) : Prop where
  overrides : node.payloadOverrides = []
  payload : AreOthers node.kind.labels node.payloadExtras
  extras : AreOthers Node.labels node.extras

variable {node : Node} {fields payload : Fields}

theorem Origin.isFormed (origin : node.Origin fields payload) (distinct : (Json.obj fields).IsDistinct) :
    node.IsFormed := by
  have own := Json.fieldsDistinct_iff.mp distinct.2 _ origin.data
  have payload := areOthers_extras own.1 origin.wholePayload node.kind.labels
  have extras := areOthers_extras distinct.1 origin.whole Node.labels
  rw [← origin.payloadExtras] at payload
  rw [← origin.extras] at extras
  exact ⟨origin.overrides, payload, extras⟩

/-- Whether a style writes all that has no declared type in a node as it is. -/
structure KeptBy (style : Style) (node : Node) : Prop where
  extras : style.Keeps node.extras
  payload : style.Keeps node.payloadExtras
  parameters : ∀ parameters, node.role.parameters = some parameters →
    style.untyped (.obj parameters) = .obj parameters

theorem keptBy_of_exact {style : Style} (exact : style.exact = true) (node : Node) :
    node.KeptBy style where
  extras := Style.keeps_of_forall fun _ _ => Style.untyped_of_exact exact _
  payload := Style.keeps_of_forall fun _ _ => Style.untyped_of_exact exact _
  parameters _ _ := Style.untyped_of_exact exact _

theorem Origin.keptBy (origin : node.Origin fields payload)
    (finite : (Json.obj fields).isFinite = true) (style : Style) : node.KeptBy style := by
  have all := Json.fieldsFinite_iff.mp finite
  have inner := Json.fieldsFinite_iff.mp (all _ origin.data)
  refine ⟨Style.keeps_of_forall fun field isExtra => ?_, Style.keeps_of_forall fun field isExtra => ?_,
    fun parameters given => ?_⟩
  · rw [origin.extras] at isExtra
    exact Style.untyped_of_isFinite (all field (List.mem_of_mem_filter isExtra))
  · rw [origin.payloadExtras] at isExtra
    exact Style.untyped_of_isFinite (inner field (List.mem_of_mem_filter isExtra))
  · obtain ⟨field, member, same⟩ := origin.parameters given
    rw [← same]
    exact Style.untyped_of_isFinite (inner field member)

/-! ## Payloads -/

variable {style : Style}

theorem dumpPayload_full (full : style.thin = false) (formed : node.IsFormed)
    (separates : style.Separates node.kind.labels node.payloadExtras) (kept : node.KeptBy style) :
    node.dumpPayload style = .obj (style.named node.declared ++ node.payloadExtras) := by
  have all : ∀ fields, style.kept fields = fields := fun fields => by
    rw [Style.kept, full, if_neg Bool.false_ne_true]
  -- A declared value has no number that a style could lose, apart from those in parameters.
  have named : style.Keeps (style.named node.declared) := by
    refine Style.keeps_of_forall fun field member => ?_
    obtain ⟨label, isDeclared, -⟩ := mem_named.mp member
    rw [declared_of_overrides formed.overrides] at isDeclared
    have own := node.isDeclared field.2 (List.of_mem_zip isDeclared).2
    generalize field.2 = value at own
    cases own with
    | null => exact ite_self _
    | int => exact ite_self _
    | str => exact ite_self _
    | obj given => exact kept.parameters _ given
  have others := formed.payload
  rw [← map_fst_declared formed.overrides] at others separates
  unfold dumpPayload
  rw [all, all, kept.payload]
  change Json.obj (Fields.merge (style.untypedFields (style.named node.declared)) _) = _
  rw [named]
  exact congrArg Json.obj (Fields.merge_of_nodup (nodup_named others separates))

theorem read_dumpPayload_full (full : style.thin = false) (formed : node.IsFormed)
    (separates : style.Separates node.kind.labels node.payloadExtras) (kept : node.KeptBy style)
    (source : Source) :
    Payload.read source node.kind (node.dumpPayload style) =
      .ok ⟨node.label, node.badge, node.role, node.payloadExtras⟩ := by
  have written := dumpPayload_full full formed separates kept
  have wellNamed := node.kind.wellNamed_labels
  have others := formed.payload
  have labels := map_fst_declared formed.overrides
  rw [← labels] at others separates wellNamed
  have zipped := (declared_of_overrides formed.overrides).symm
  rw [Kind.labels_eq] at zipped
  obtain ⟨label, badge, role⟩ := stands_named wellNamed others separates zipped
  have extras := extras_named wellNamed others separates
  rw [labels] at extras
  rw [written]
  unfold Payload.read
  simp only [object, Reading.andThen, openFields_named others separates]
  rw [rereads_text.withDefault "" label, rereads_badge.optional badge, extras]
  change Reading.apply _ (Role.read node.role.kind _) = _
  rw [Role.read_of_stands role]
  rfl

/-! ## Nodes -/

theorem rereads_place (source : Source) : Rereads (Place.read source) dumpPlace :=
  ⟨fun _ => nofun, fun _ => rfl⟩

theorem separates_labels (style : Style) (others : AreOthers Node.labels node.extras) :
    style.Separates Node.labels node.extras := by
  have same : ∀ label ∈ Node.labels, style.name label = label.wire := by
    simp only [Node.labels, List.forall_mem_cons, List.not_mem_nil, false_imp_iff, implies_true,
      and_true]
    exact ⟨style.name_same _, style.name_same _, style.name_same _, style.name_same _⟩
  refine ⟨?_, fun label member => ?_, fun label member => ?_⟩
  · rw [List.map_congr_left same]
    exact Node.wellNamed_labels.wires
  · rw [same label member]
    exact Node.wellNamed_labels.whole label member
  · rw [same label member]
    exact others.apart label member

/-- Beside its payload, a node that is written in full reads back as it was. -/
theorem read_dump_full_eq (full : style.thin = false) (others : AreOthers Node.labels node.extras)
    (kept : style.Keeps node.extras) (source : Source) :
    Node.read source (node.dump style) =
      (((Payload.read source node.kind (node.dumpPayload style)).under (.field "data")).map
        fun payload => (⟨node.id, node.place, payload.label, payload.badge, payload.role,
          payload.extras, [], node.extras⟩ : Node)).under (.tag node.kind.tag) := by
  let outer : List (Label × Json) :=
    [(.same "id", .str node.id), (.same "position", dumpPlace node.place),
      (.same "type", .str node.kind.tag), (.same "data", node.dumpPayload style)]
  have left : AreOthers (outer.map (·.1)) node.extras := others
  have apart : style.Separates (outer.map (·.1)) node.extras := separates_labels style others
  have wellNamed : WellNamed (outer.map (·.1)) := Node.wellNamed_labels
  have written : node.dump style = .obj (style.named outer ++ node.extras) :=
    record_full full left apart kept
  have zipped : Node.labels.zip [.str node.id, dumpPlace node.place, .str node.kind.tag,
      node.dumpPayload style] = outer := rfl
  obtain ⟨id, place, -, -, -⟩ := stands_named wellNamed left apart zipped
  have data : Label.found? (.same "data") (style.named outer ++ node.extras) =
      some (style.name (.same "data"), node.dumpPayload style) :=
    found?_named wellNamed left apart (by simp [outer])
  have payload : required (style.named outer ++ node.extras) (.same "data")
      (Payload.read source node.kind) =
        (Payload.read source node.kind (node.dumpPayload style)).under (.field "data") := by
    unfold required
    rw [data, style.name_same]
  have tag : Fields.get? (style.named outer ++ node.extras) "type" = some (.str node.kind.tag) := by
    refine Fields.get?_of_mem (nodup_named left apart) (List.mem_append_left _ ?_)
    exact mem_named.mpr ⟨.same "type", by simp [outer], style.name_same "type"⟩
  have extras : Schema.extras (style.named outer ++ node.extras) Node.labels = node.extras :=
    extras_named wellNamed left apart
  rw [written]
  unfold Node.read
  simp only [tag, Kind.ofTag?_tag]
  unfold Node.readFields
  simp only [openFields_named left apart, Reading.andThen]
  rw [rereads_text.required id, (rereads_place source).withDefault Place.origin place, payload, extras]
  generalize (Payload.read source node.kind (node.dumpPayload style)).under (.field "data") = reading
  cases reading <;> rfl

/-- A node that is written in full reads back as it was. -/
theorem read_dump_full (full : style.thin = false) (formed : node.IsFormed)
    (separates : style.Separates node.kind.labels node.payloadExtras) (kept : node.KeptBy style)
    (source : Source) : Node.read source (node.dump style) = .ok node := by
  rw [read_dump_full_eq full formed.extras kept.extras,
    read_dumpPayload_full full formed separates kept, ← formed.overrides]
  rfl

end Node

end ChainFlow

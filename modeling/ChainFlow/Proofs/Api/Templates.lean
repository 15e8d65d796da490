import ChainFlow.Proofs.Api.Session
import ChainFlow.Proofs.Sample
import ChainFlow.Proofs.Template.Rules

/-!
# Templates that requests leave in the store

Whatever requests come, the nodes and edges of all templates in the store are ones that a new template
can have (`templates_creatable`). A name is one that a new template can have unless an update has set
it: updates are not held to the rule for names.
-/

namespace ChainFlow

open Schema
open Json (ItemsProper FieldsProper)

theorem Json.isProper_of_parseBytes {text decoded : List Char} {value : Json}
    (decodes : decode text = some decoded) (joined : StringsJoined decoded)
    (read : parseBytes text = .ok value) : value.IsProper := by
  have start : AreProper (.value, []) := ⟨trivial, by simp⟩
  unfold parseBytes at read
  rw [decodes] at read
  exact isProper_readTokens (isProper_tokensFrom joined) start read

namespace Api

/-! ## Bodies -/

/-- Whether no string of a body has the two halves of a surrogate pair side by side. -/
def Body.IsJoined (body : Body) : Prop :=
  ∀ text decoded, body = .raw text → Json.decode text.toList = some decoded →
    Json.StringsJoined decoded

instance : DecidablePred Body.IsJoined
  | .none => .isTrue nofun
  | .raw text =>
    match decodes : Json.decode text.toList with
    | .none => .isTrue fun _ _ same other => by
      cases same
      cases decodes.symm.trans other
    | some decoded =>
      decidable_of_iff (Json.StringsJoined decoded)
        ⟨fun joined _ _ same other => by
          cases same
          cases decodes.symm.trans other
          exact joined,
        fun joined => joined text decoded rfl decodes⟩

theorem Body.isProper_of_value {body : Body} (joined : body.IsJoined) {value : Json}
    (denotes : body.value = .ok value) : value.IsProper := by
  cases body with
  | none =>
      cases denotes
      trivial
  | raw text =>
      dsimp only [Body.value] at denotes
      split at denotes
      · cases denotes
        trivial
      · split at denotes
        · next parsed =>
            cases denotes
            cases decodes : Json.decode text.toList with
            | none =>
                unfold Json.parseBytes at parsed
                rw [decodes] at parsed
                cases parsed
            | some decoded =>
                exact Json.isProper_of_parseBytes decodes (joined text decoded rfl decodes) parsed
        · split at denotes <;> cases denotes

theorem Body.value_raw {text : String} (characters : List Char) (isText : text.toList = characters)
    (decodes : Json.decode characters = some characters) (some_ : text.isEmpty = false)
    {value : Json} (parsed : Json.readTokens (Json.tokens characters) .value [] = .ok value) :
    (Body.raw text).value = .ok value := by
  have read : Json.parseBytes text.toList = .ok value := by
    rw [Json.parseBytes, isText, decodes]
    exact parsed
  rw [Body.value, if_neg (by rw [some_]; exact Bool.false_ne_true), read]

theorem Body.exists_of_read {α : Type} {body : Body} (joined : body.IsJoined)
    {read : Json → Reading α} {result : α} (reading : body.read read = .ok result) :
    ∃ value : Json, value.IsProper ∧ read value = .ok result := by
  unfold Body.read at reading
  split at reading
  · cases reading
  · cases reading
  · next value _ denotes =>
      split at reading
      · next isRead =>
          cases reading
          exact ⟨value, Body.isProper_of_value joined denotes, isRead⟩
      · cases reading

/-! ## Drafts -/

theorem name_of_read {value : Json} {draft : Draft} (reading : Draft.read value = .ok draft) :
    IsName draft.name := by
  cases value with
  | obj fields =>
      obtain ⟨_, tags, four, -, rfl⟩ := Reading.apply_eq_ok_iff.mp reading
      obtain ⟨_, edges, three, -, rfl⟩ := Reading.apply_eq_ok_iff.mp four
      obtain ⟨_, nodes, two, -, rfl⟩ := Reading.apply_eq_ok_iff.mp three
      obtain ⟨_, description, one, -, rfl⟩ := Reading.apply_eq_ok_iff.mp two
      obtain ⟨name, nameRead, rfl⟩ := Reading.map_eq_ok_iff.mp one
      obtain ⟨_, -, -, isRead⟩ := mem_of_required nameRead
      exact (someText_eq_ok.mp isRead).2
  | _ => cases reading

/-- What is read from a draft can be written. -/
structure Draft.IsRead (draft : Draft) : Prop where
  texts : ItemsProper [.str draft.name, .str draft.description,
    .ofOption (fun tags => .arr (tags.map .str)) draft.tags]
  nodes : ∀ node ∈ draft.graph.nodes, node.IsRead
  edges : ∀ edge ∈ draft.graph.edges, edge.IsRead

theorem staysProper_someText : StaysProper someText .str := by
  constructor
  intro source name proper reading
  obtain ⟨rfl, -⟩ := someText_eq_ok.mp reading
  exact proper

theorem Draft.isRead_of_read {value : Json} {draft : Draft} (proper : value.IsProper)
    (reading : Draft.read value = .ok draft) : draft.IsRead := by
  cases value with
  | obj fields =>
      obtain ⟨_, tags, four, tagsRead, rfl⟩ := Reading.apply_eq_ok_iff.mp reading
      obtain ⟨_, edges, three, edgesRead, rfl⟩ := Reading.apply_eq_ok_iff.mp four
      obtain ⟨_, nodes, two, nodesRead, rfl⟩ := Reading.apply_eq_ok_iff.mp three
      obtain ⟨_, description, one, descriptionRead, rfl⟩ := Reading.apply_eq_ok_iff.mp two
      obtain ⟨name, nameRead, rfl⟩ := Reading.map_eq_ok_iff.mp one
      have empty : (Json.str "").IsProper := List.isChain_nil
      refine ⟨?_, fun node member => ?_, fun edge member => ?_⟩
      · exact ⟨staysProper_someText.required proper.2 nameRead,
          staysProper_text.withDefault proper.2 empty descriptionRead,
          (staysProper_list staysProper_text).optional proper.2 tagsRead, trivial⟩
      · obtain ⟨item, isProper, isRead⟩ := exists_of_withDefault proper.2 nodesRead node member
        exact Node.isRead_of_read isProper isRead
      · obtain ⟨item, isProper, isRead⟩ := exists_of_withDefault proper.2 edgesRead edge member
        exact Edge.isRead_of_read isProper isRead
  | _ => cases reading

/-! ## Changes -/

section

variable {fields changes : Fields} {name : String}

theorem change_eq_ok {α : Type} {read : Json → Reading α} {write : α → Json}
    (stays : StaysProper read write) (proper : FieldsProper fields)
    (reading : change fields name read write = .ok changes) :
    (Fields.names changes).Sublist [name] ∧ FieldsProper changes := by
  unfold change at reading
  cases found : fields.get? name with
  | none =>
      rw [found] at reading
      cases reading
      exact ⟨List.nil_sublist _, trivial⟩
  | some source =>
      rw [found] at reading
      obtain ⟨value, isRead, rfl⟩ := Reading.map_eq_ok_iff.mp reading
      have own := Json.fieldsProper_iff.mp proper _ (Fields.mem_of_get? found)
      exact ⟨List.Sublist.refl _, own.1,
        stays.nullable.proper own.2 (Reading.under_eq_ok_iff.mp isRead), trivial⟩

theorem staysProper_nodes : StaysProper (Node.readList .request)
    (fun nodes => .arr (nodes.map (·.dump .plain))) :=
  staysProper_list ⟨fun proper reading => (Node.isRead_of_read proper reading).isProper_plain⟩

theorem staysProper_edges : StaysProper (Edge.readList .request)
    (fun edges => .arr (edges.map (·.dump .plain))) :=
  staysProper_list ⟨fun proper reading => (Edge.isRead_of_read proper reading).isProper_plain⟩

theorem areChanges_of_read {value : Json} (proper : value.IsProper)
    (reading : readChanges value = .ok changes) : Template.AreChanges changes := by
  cases value with
  | obj fields =>
      obtain ⟨_, tags, four, tagsRead, rfl⟩ := Reading.apply_eq_ok_iff.mp reading
      obtain ⟨_, edges, three, edgesRead, rfl⟩ := Reading.apply_eq_ok_iff.mp four
      obtain ⟨_, nodes, two, nodesRead, rfl⟩ := Reading.apply_eq_ok_iff.mp three
      obtain ⟨_, description, one, descriptionRead, rfl⟩ := Reading.apply_eq_ok_iff.mp two
      obtain ⟨name, nameRead, rfl⟩ := Reading.map_eq_ok_iff.mp one
      obtain ⟨isName, ofName⟩ := change_eq_ok staysProper_text proper.2 nameRead
      obtain ⟨isDescription, ofDescription⟩ :=
        change_eq_ok staysProper_text proper.2 descriptionRead
      obtain ⟨isNodes, ofNodes⟩ := change_eq_ok staysProper_nodes proper.2 nodesRead
      obtain ⟨isEdges, ofEdges⟩ := change_eq_ok staysProper_edges proper.2 edgesRead
      obtain ⟨isTags, ofTags⟩ :=
        change_eq_ok (staysProper_list staysProper_text) proper.2 tagsRead
      have names : (Fields.names (name ++ description ++ nodes ++ edges ++ tags)).Sublist
          Template.settable := by
        simp only [Fields.names_append]
        exact (((isName.append isDescription).append isNodes).append isEdges).append isTags
      refine ⟨⟨names.nodup (by decide), ?_⟩, names.subset⟩
      simp only [Json.fieldsProper_iff, List.forall_mem_append] at *
      exact ⟨⟨⟨⟨ofName, ofDescription⟩, ofNodes⟩, ofEdges⟩, ofTags⟩
  | _ => cases reading

end

/-! ## Requests -/

/-- A request, and the world in which it comes in. -/
structure Turn (σ : Type) where
  world : World (Client σ)
  verb : String
  path : String
  body : Body

namespace Turn

variable {σ : Type}

/-- Whether the clock shows a number that can be written, and strings are joined. -/
structure IsFair (turn : Turn σ) : Prop where
  clock : (Json.int turn.world.clock).IsProper
  body : turn.body.IsJoined

/-- Whether a request asks to update the template of an id with a name. -/
def Renames (turn : Turn σ) (id name : String) : Prop :=
  route turn.verb turn.path = .endpoint (.updateTemplate id) ∧
    ∃ changes, turn.body.read readChanges = .ok changes ∧ changes.get? "name" = some (.str name)

end Turn

namespace Service

variable {σ : Type} {service : Service σ} {store : TemplateStore} {rule : String → String → Prop}

/-- The store after some requests. -/
def storeAfter (service : Service σ) (store : TemplateStore) (turns : List (Turn σ)) :
    TemplateStore :=
  turns.foldl (fun store turn =>
    (service.answer turn.verb turn.path turn.body ⟨turn.world, store⟩).2.store) store

theorem storeAfter_cons (turn : Turn σ) (turns : List (Turn σ)) :
    service.storeAfter store (turn :: turns) = service.storeAfter
      (service.answer turn.verb turn.path turn.body ⟨turn.world, store⟩).2.store turns :=
  List.foldl_cons ..

theorem storeAfter_nil : service.storeAfter store [] = store := rfl

theorem store_withBody {α : Type} {body : Body} {read : Json → Reading α}
    {answer : α → State σ → Answer × State σ} {state : State σ}
    (keeps : state.store.Keeps rule)
    (accepted : ∀ value, body.read read = .ok value → (answer value state).2.store.Keeps rule) :
    (withBody body read answer state).2.store.Keeps rule := by
  unfold withBody
  split
  · next value reading => exact accepted value reading
  · exact keeps

theorem keeps_answer {turn : Turn σ} (fair : turn.IsFair) (keeps : store.Keeps rule)
    (named : ∀ id name, IsName name → rule id name)
    (renamed : ∀ id name, turn.Renames id name → rule id name) :
    (service.answer turn.verb turn.path turn.body ⟨turn.world, store⟩).2.store.Keeps rule := by
  unfold answer
  split
  · next endpoint leads =>
      unfold atEndpoint
      cases endpoint with
      | about => exact keeps
      | health => exact keeps
      | sessionStatus => exact keeps
      | openSession => exact store_withBody keeps fun _ _ => keeps
      | simulate => exact store_withBody keeps fun _ _ => keeps
      | execute => exact store_withBody keeps fun _ _ => keeps
      | validate => exact store_withBody keeps fun _ _ => keeps
      | templates => exact keeps
      | exampleTemplates => exact keeps
      | template id => exact keeps
      | saveTemplate =>
          refine store_withBody keeps fun draft reading => ?_
          obtain ⟨value, proper, isRead⟩ := Body.exists_of_read fair.body reading
          obtain ⟨texts, nodes, edges⟩ := Draft.isRead_of_read proper isRead
          exact keeps.save fair.clock texts nodes edges fun id => named id _ (name_of_read isRead)
      | updateTemplate id =>
          refine store_withBody keeps fun changes reading => ?_
          obtain ⟨value, proper, isRead⟩ := Body.exists_of_read fair.body reading
          exact keeps.update fair.clock (areChanges_of_read proper isRead) fun name given =>
            renamed id name ⟨leads, changes, reading, given⟩
      | deleteTemplate id => exact keeps.delete fair.clock id
      | balances => exact keeps
  · exact keeps
  · exact keeps
  · exact keeps

theorem keeps_storeAfter {turns : List (Turn σ)} (fair : ∀ turn ∈ turns, turn.IsFair)
    (keeps : store.Keeps rule) (named : ∀ id name, IsName name → rule id name)
    (renamed : ∀ turn ∈ turns, ∀ id name, turn.Renames id name → rule id name) :
    (service.storeAfter store turns).Keeps rule := by
  induction turns generalizing store with
  | nil => exact keeps
  | cons turn turns ih =>
      rw [List.forall_mem_cons] at fair renamed
      rw [storeAfter_cons]
      exact ih fair.2 (keeps_answer fair.1 keeps named renamed.1) renamed.2

theorem storeAfter_save {turn : Turn σ} (leads : route turn.verb turn.path = .endpoint .saveTemplate)
    {draft : Draft} (drafted : turn.body.read Draft.read = .ok draft) (turns : List (Turn σ)) :
    service.storeAfter store (turn :: turns) = service.storeAfter
      (store.save turn.world.clock draft.name draft.description draft.graph draft.tags).2 turns := by
  rw [storeAfter_cons, answer_of_route leads]
  simp only [atEndpoint, withBody, drafted]
  rfl

theorem answer_update {turn : Turn σ} {id : String}
    (leads : route turn.verb turn.path = .endpoint (.updateTemplate id)) {changes : Fields}
    (changed : turn.body.read readChanges = .ok changes) (state : State σ) :
    service.answer turn.verb turn.path turn.body state = update id changes state := by
  rw [answer_of_route leads]
  simp only [atEndpoint, withBody, changed]

theorem storeAfter_update {turn : Turn σ} {id : String}
    (leads : route turn.verb turn.path = .endpoint (.updateTemplate id)) {changes : Fields}
    (changed : turn.body.read readChanges = .ok changes) (turns : List (Turn σ)) :
    service.storeAfter store (turn :: turns) =
      service.storeAfter (store.update turn.world.clock id changes).2 turns := by
  rw [storeAfter_cons, answer_update leads changed]
  rfl

/-! ## A name taken away -/

/-- A service of which the gateway says nothing. -/
def silent : Service Unit :=
  let gateway := Sample.gateway 200 "\x7b\x7d"
  ⟨gateway, Sample.engineOf gateway, 0, .zero false⟩

def naming : Turn Unit :=
  ⟨World.fresh 1700000000000 (Gateway.stranger ()), "POST", "/templates",
    .raw "\x7b\"name\": \"Plan\"\x7d"⟩

/-- The name that `naming` gives is taken away. -/
def unnaming : Turn Unit :=
  ⟨World.fresh 1700000000000 (Gateway.stranger ()), "PUT",
    "/templates/template-1700000000000-abcdefghi", .raw "\x7b\"name\": \"\"\x7d"⟩

theorem isFair_unnaming : ∀ turn ∈ [naming, unnaming], turn.IsFair := by
  have bodies : ∀ turn ∈ [naming, unnaming], turn.body.IsJoined := by decide +kernel
  intro turn member
  refine ⟨?_, bodies turn member⟩
  rcases List.mem_pair.mp member with rfl | rfl <;> exact TemplateStore.isProper_moment

theorem storeAfter_naming (turns : List (Turn Unit)) : silent.storeAfter .empty (naming :: turns) =
    silent.storeAfter TemplateStore.planned turns := by
  have saves : route naming.verb naming.path = .endpoint .saveTemplate := by decide +kernel
  have drafted : naming.body.read Draft.read = .ok ⟨"Plan", "", ⟨[], []⟩, none⟩ := by
    rw [naming, Body.read, Body.value_raw ['\x7b', '"', 'n', 'a', 'm', 'e', '"', ':', ' ', '"', 'P',
      'l', 'a', 'n', '"', '\x7d'] (by decide +kernel) (by decide +kernel) rfl rfl]
    rfl
  rw [storeAfter_save saves drafted]
  rfl

theorem route_unnaming : route unnaming.verb unnaming.path =
    .endpoint (.updateTemplate "template-1700000000000-abcdefghi") := by decide +kernel

theorem storeAfter_unnaming : silent.storeAfter .empty [naming, unnaming] =
    (TemplateStore.planned.update 1700000000000 "template-1700000000000-abcdefghi"
      [("name", .str "")]).2 := by
  have changed : unnaming.body.read readChanges = .ok [("name", .str "")] := by
    rw [unnaming, Body.read, Body.value_raw ['\x7b', '"', 'n', 'a', 'm', 'e', '"', ':', ' ', '"', '"',
      '\x7d'] (by decide +kernel) (by decide +kernel) rfl rfl]
    rfl
  rw [storeAfter_naming, storeAfter_update route_unnaming changed, storeAfter_nil]
  rfl

theorem saved_unnaming : ∃ template,
    (silent.storeAfter .empty [naming, unnaming]).saved 1700000000000 = .ok [template] ∧
      template.name = "" := by
  have nameless : Text.IsJoined "".toList := List.isChain_nil
  have renamed := TemplateStore.holds_planned.saved_renamed (List.nodup_singleton _)
    TemplateStore.isProper_moment (by rw [List.find?_singleton, beq_self_eq_true]; rfl)
    nameless 1700000000000
  rw [List.map_singleton, if_pos rfl, ← storeAfter_unnaming] at renamed
  exact ⟨_, renamed, rfl⟩

/-! ## What can be sent as new -/

/-- Whether all of a template can be sent as new, save a name that one of some requests gave it. -/
structure Vouched (turns : List (Turn σ)) (template : Template) : Prop where
  creatable_iff : ∀ name, ({ template with name } : Template).IsCreatable ↔ IsName name
  renamed : ¬IsName template.name → ∃ turn ∈ turns, turn.Renames template.id template.name

theorem vouched_of_isRuled {turns : List (Turn σ)} {template : Template}
    (ruled : TemplateStore.IsRuled
      (fun id name => IsName name ∨ ∃ turn ∈ turns, turn.Renames id name) template) :
    Vouched turns template := by
  obtain ⟨isRead, name⟩ := ruled
  exact ⟨fun _ => Template.isCreatable_iff isRead.nodes isRead.edges, name.resolve_left⟩

/-- What requests leave in a store that was missing can be sent as new, but for names that updates
gave. -/
theorem templates_creatable (service : Service σ) {store : TemplateStore}
    (missing : store.text = none) {turns : List (Turn σ)} (fair : ∀ turn ∈ turns, turn.IsFair)
    {now : Int} (clock : (Json.int now).IsProper) :
    (∀ text, (service.storeAfter store turns).text = some text → ∃ written,
      text = TemplateStore.textOf written ∧ ∀ template ∈ written, Vouched turns template) ∧
    ∃ templates, (service.storeAfter store turns).saved now = .ok templates ∧
      ∀ template ∈ templates, Vouched turns template := by
  have keeps : (service.storeAfter store turns).Keeps fun id name =>
      IsName name ∨ ∃ turn ∈ turns, turn.Renames id name := by
    exact keeps_storeAfter fair (fun text file => nomatch missing.symm.trans file)
      (fun _ _ => .inl) fun turn member _ _ renames => .inr ⟨turn, member, renames⟩
  constructor
  · intro text file
    obtain ⟨written, same, -, ruled⟩ := keeps text file
    exact ⟨written, same, fun template member => vouched_of_isRuled (ruled template member)⟩
  · obtain ⟨templates, held, ruled⟩ := keeps.saved clock
    exact ⟨templates, held, fun template member => vouched_of_isRuled (ruled template member)⟩

theorem templates_creatable_unnaming : ∃ template,
    (silent.storeAfter .empty [naming, unnaming]).saved 1700000000000 = .ok [template] ∧
      Vouched [naming, unnaming] template := by
  have missing : TemplateStore.empty.text = none := rfl
  obtain ⟨_, templates, held, vouched⟩ :=
    templates_creatable silent missing isFair_unnaming TemplateStore.isProper_moment
  obtain ⟨template, isHeld, -⟩ := saved_unnaming
  cases held.symm.trans isHeld
  exact ⟨template, isHeld, vouched template List.mem_cons_self⟩

/-- An update leaves a template that cannot be sent as new. -/
theorem update_unnames : ∃ template,
    (silent.storeAfter .empty [naming, unnaming]).saved 1700000000000 = .ok [template] ∧
      ¬template.IsCreatable := by
  obtain ⟨template, held, nameless⟩ := saved_unnaming
  exact ⟨template, held, fun creatable => (name_of_read creatable).2 nameless⟩

end Service

end Api

end ChainFlow

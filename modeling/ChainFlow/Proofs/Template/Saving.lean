import ChainFlow.Proofs.Result
import ChainFlow.Proofs.Sample
import ChainFlow.Proofs.Template.Document
import ChainFlow.Template.Store

/-!
# Templates that are saved

What a store holds after a template was saved in it: the templates that it held and the new one, each
as the document keeps it, if none hides an undeclared field behind a declared one. They are the same
templates as before if and only if the document keeps each as it is (`save_keeps_iff`).
-/

namespace ChainFlow

open Schema
open Json (IsProper ItemsProper)
open Text (IsJoined)

theorem itemsProper_of_itemsOf {source : Json} {items : List Json} (proper : source.IsProper)
    (listed : itemsOf source = .ok items) : ItemsProper items := by
  cases source with
  | arr own =>
      cases listed
      exact proper
  | obj fields =>
      cases listed
      refine Json.itemsProper_iff.mpr fun item member => ?_
      obtain ⟨field, isField, rfl⟩ := List.mem_map.mp member
      exact (Json.fieldsProper_iff.mp proper.2 field isField).1
  | str text =>
      cases listed
      refine Json.itemsProper_iff.mpr fun item member => ?_
      obtain ⟨c, -, rfl⟩ := List.mem_map.mp member
      change IsJoined (String.singleton c).toList
      rw [String.toList_singleton]
      exact List.isChain_singleton c
  | null => cases listed
  | bool own => cases listed
  | int own => cases listed
  | float own => cases listed

theorem exists_of_readList {α : Type} {read : Json → Reading α} {source : Json} {values : List α}
    (proper : source.IsProper)
    (reading : (itemsOf source >>= fun items =>
      ofReading "list" (Schema.list read (.arr items))) = .ok values) :
    ∀ value ∈ values, ∃ item : Json, item.IsProper ∧ read item = .ok value := by
  obtain ⟨items, listed, done⟩ := Except.bind_eq_ok reading
  have itemsProper : (Json.arr items).IsProper := itemsProper_of_itemsOf proper listed
  exact exists_of_list itemsProper (ofReading_eq_ok done)

namespace Graph

theorem isRead_of_readNodes {source : Json} {nodes : List Node} (proper : source.IsProper)
    (reading : readNodes source = .ok nodes) : ∀ node ∈ nodes, node.IsRead := by
  intro node member
  obtain ⟨item, isProper, isRead⟩ := exists_of_readList proper reading node member
  exact Node.isRead_of_read isProper isRead

theorem isRead_of_readEdges {source : Json} {edges : List Edge} (proper : source.IsProper)
    (reading : readEdges source = .ok edges) : ∀ edge ∈ edges, edge.IsRead := by
  intro edge member
  obtain ⟨item, isProper, isRead⟩ := exists_of_readList proper reading edge member
  exact Edge.isRead_of_read isProper isRead

/-- Whether a drawing was read from values that texts can denote. -/
structure IsParsed (graph : Graph) : Prop where
  nodes : ∃ source : Json, source.IsProper ∧ readNodes source = .ok graph.nodes
  edges : ∃ source : Json, source.IsProper ∧ readEdges source = .ok graph.edges

end Graph

namespace TemplateStore

variable {templates : List Template}

theorem parse_textOf (isRead : ∀ template ∈ templates, template.IsRead)
    (fits : templates.all (·.fitsLevels) = true) :
    Json.parse (textOf templates).toList = .ok (.arr (templates.map (·.dump .document))) := by
  rw [List.all_eq_true] at fits
  have proper : (Json.arr (templates.map (·.dump .document))).IsProper := by
    refine Json.itemsProper_iff.mpr fun item member => ?_
    obtain ⟨template, isTemplate, rfl⟩ := List.mem_map.mp member
    exact Template.isProper_dump (isRead template isTemplate)
  have deep : (Json.arr (templates.map (·.dump .document))).levels ≤ levelLimit + 6 := by
    refine Nat.succ_le_succ (levelsOfItems_le_iff.mpr fun item member => ?_)
    obtain ⟨template, isTemplate, rfl⟩ := List.mem_map.mp member
    exact Template.levels_dump_le (isRead template isTemplate) (fits template isTemplate)
  rw [textOf, String.toList_ofList]
  exact Json.parse_indented proper (deep.trans (by decide))

theorem templatesOf_textOf (isRead : ∀ template ∈ templates, template.IsRead)
    (fits : templates.all (·.fitsLevels) = true) (now : Int) :
    templatesOf now (textOf templates) =
      .ok ((Reading.items (Template.read now) 0 (templates.map (·.dump .document))).toOption.getD
        []) := by
  unfold templatesOf
  rw [parse_textOf isRead fits]
  rfl

theorem templatesOf_of_unshadowed (isRead : ∀ template ∈ templates, template.IsRead)
    (fits : templates.all (·.fitsLevels) = true)
    (unshadowed : ∀ template ∈ templates, template.Unshadowed) (now : Int) :
    templatesOf now (textOf templates) = .ok (templates.map (·.documented)) := by
  have all : Reading.items (Template.read now) 0 (templates.map (·.dump .document)) =
      .ok (templates.map (·.documented)) :=
    items_map (fun template member =>
      Template.read_dump (isRead template member) (unshadowed template member) now) 0
  rw [templatesOf_textOf isRead fits, all]
  rfl

/-- Templates that are written are the ones that are read if a document keeps each of them as it is. -/
theorem templatesOf_eq_iff (isRead : ∀ template ∈ templates, template.IsRead)
    (fits : templates.all (·.fitsLevels) = true) (now : Int) :
    templatesOf now (textOf templates) = .ok templates ↔
      ∀ template ∈ templates, template.IsKept := by
  constructor
  · intro same
    rw [templatesOf_textOf isRead fits, Except.ok.injEq] at same
    cases reading : Reading.items (Template.read now) 0 (templates.map (·.dump .document)) with
    | ok again =>
        rw [reading] at same
        obtain rfl : again = templates := same
        intro template member
        exact Template.isKept_of_read_dump (isRead template member)
          (reads_of_items reading template member)
    | refused issues =>
        -- A file that cannot be read holds no templates, so none were written.
        rw [reading] at same
        obtain rfl : [] = templates := same
        exact fun template member => nomatch member
  · intro kept
    have all : templates.map Template.documented = templates.map fun template => template :=
      List.map_congr_left fun template member => (kept template member).documented_eq_self
    rw [List.map_id'] at all
    rw [templatesOf_of_unshadowed isRead fits fun template member => (kept template member).unshadowed,
      all]

/-! ## Ids -/

theorem isLone_of_lt {c : Char} (small : c.toNat < Text.standInOffset) : Text.isLone c = false := by
  unfold Text.isLone Text.unit?
  generalize Text.standInOffset = offset at small ⊢
  rw [if_neg, Option.isSome_none]
  rw [Bool.and_eq_true, decide_eq_true_iff]
  omega

theorem isLone_of_isDigit {c : Char} (digit : c.isDigit = true) : Text.isLone c = false := by
  refine isLone_of_lt ?_
  rw [Char.isDigit, Bool.and_eq_true, decide_eq_true_iff, decide_eq_true_iff] at digit
  exact Nat.lt_of_le_of_lt (UInt32.le_iff_toNat_le.mp digit.2) (by decide)

theorem isLone_integer (n : Int) : ∀ c ∈ Text.integer n, Text.isLone c = false := by
  have digits : ∀ c ∈ Text.digits n.natAbs, Text.isLone c = false :=
    fun c member => isLone_of_isDigit (Text.isDigit_of_mem_digits member)
  unfold Text.integer
  split
  · exact List.forall_mem_cons.mpr ⟨rfl, digits⟩
  · exact digits

theorem isLone_letter (position : Nat) : Text.isLone (letter position) = false := by
  have none : alphabet.any Text.isLone = false := rfl
  rw [List.any_eq_false] at none
  unfold letter
  cases found : alphabet[position % alphabet.length]? with
  | none => rfl
  | some c => exact Bool.eq_false_iff.mpr (none c (List.mem_of_getElem? found))

theorem toList_newId (store : TemplateStore) (now : Int) :
    (store.newId now).1.toList = "template-".toList ++ Text.integer now ++ "-".toList ++
      (List.range idLetters).map fun index => letter (store.drawn + index) := by
  simp [newId, ToString.toString]

/-- An id is written with letters, digits and dashes, none of which is half a pair. -/
theorem isJoined_newId (store : TemplateStore) (now : Int) :
    IsJoined (store.newId now).1.toList := by
  have number : (Text.integer now).any Text.isLone = false :=
    List.any_eq_false.mpr fun c member => Bool.eq_false_iff.mp (isLone_integer now c member)
  have letters : ((List.range idLetters).map fun index => letter (store.drawn + index)).any
      Text.isLone = false := by
    refine List.any_eq_false.mpr fun c member => ?_
    obtain ⟨index, -, rfl⟩ := List.mem_map.mp member
    exact Bool.eq_false_iff.mp (isLone_letter _)
  refine Text.isJoined_of_hasLone ?_
  rw [Text.hasLone, toList_newId, List.any_append, List.any_append, List.any_append, number, letters]
  rfl

/-! ## Saving -/

/-- Whether no string in the file has the two halves of a pair side by side. -/
def StringsJoined (store : TemplateStore) : Prop :=
  ∀ text, store.text = some text → Json.StringsJoined text.toList

variable {store fresh after : TemplateStore} {now : Int} {name description : String}
  {graph : Graph} {tags : Option (List String)} {before : List Template} {template : Template}

theorem isRead_of_saved (clock : (Json.int now).IsProper) (joined : store.StringsJoined)
    (held : store.saved now = .ok before) : ∀ template ∈ before, template.IsRead := by
  unfold saved at held
  cases file : store.text with
  | none =>
      rw [file] at held
      cases held
      exact fun template member => nomatch member
  | some text =>
      rw [file] at held
      unfold templatesOf at held
      dsimp only at held
      split at held
      · cases held
      · cases held
        exact fun template member => nomatch member
      · next value parsed =>
          have proper := Json.isProper_of_parse (joined text file) parsed
          cases reading : Schema.list (Template.read now) value with
          | refused issues =>
              rw [reading] at held
              cases held
              exact fun template member => nomatch member
          | ok own =>
              rw [reading] at held
              cases held
              intro template member
              obtain ⟨item, isProper, isRead⟩ := exists_of_list proper reading template member
              exact Template.isRead_of_read clock isProper isRead

theorem save_eq_ok (saves : store.save now name description graph tags = (.ok template, after)) :
    template =
        ⟨(store.newId now).1, name, description, graph.nodes, graph.edges, now, now, tags⟩ ∧
      ∃ before, store.saved now = .ok before ∧
        (before ++ [template]).all (·.fitsLevels) = true ∧
        after.text = some (textOf (before ++ [template])) := by
  unfold save at saves
  dsimp only at saves
  generalize own : (⟨(store.newId now).1, name, description, graph.nodes, graph.edges, now, now,
    tags⟩ : Template) = template at saves
  cases added : (store.newId now).2.add now template with
  | error fault =>
      rw [added] at saves
      cases saves
  | ok changed =>
      rw [added] at saves
      cases saves
      obtain ⟨before, held, writes⟩ := Except.bind_eq_ok added
      refine ⟨rfl, before, held, ?_⟩
      unfold write at writes
      split at writes
      · next fits =>
          cases writes
          exact ⟨fits, rfl⟩
      · cases writes

theorem isRead_of_save (clock : (Json.int now).IsProper)
    (texts : ItemsProper
      [.str name, .str description, .ofOption (fun tags => .arr (tags.map .str)) tags])
    (parsed : graph.IsParsed)
    (saves : store.save now name description graph tags = (.ok template, after)) :
    template.IsRead := by
  obtain ⟨nodes, nodesProper, nodesRead⟩ := parsed.nodes
  obtain ⟨edges, edgesProper, edgesRead⟩ := parsed.edges
  obtain ⟨isName, isDescription, isTags, -⟩ := texts
  obtain ⟨rfl, -⟩ := save_eq_ok saves
  exact {
    values := ⟨isJoined_newId store now, isName, isDescription, clock, clock, isTags, trivial⟩
    nodes := Graph.isRead_of_readNodes nodesProper nodesRead
    edges := Graph.isRead_of_readEdges edgesProper edgesRead }

theorem saved_of_save (held : store.saved now = .ok before)
    (saves : store.save now name description graph tags = (.ok template, after))
    (same : fresh.text = after.text) (later : Int) :
    (before ++ [template]).all (·.fitsLevels) = true ∧
      fresh.saved later = templatesOf later (textOf (before ++ [template])) := by
  obtain ⟨-, own, ownHeld, fits, written⟩ := save_eq_ok saves
  obtain rfl : own = before := Except.ok.inj (ownHeld.symm.trans held)
  refine ⟨fits, ?_⟩
  unfold saved
  rw [same, written]

theorem find?_of_saved (held : store.saved now = .ok (before ++ [template]))
    (new : ∀ earlier ∈ before, earlier.id ≠ template.id) :
    store.find? now template.id = .ok (some template) := by
  have others : before.find? (·.id == template.id) = none :=
    List.find?_eq_none.mpr fun earlier member => by
      rw [beq_iff_eq]
      exact new earlier member
  unfold find?
  rw [held]
  simp only [Except.map, List.find?_append, others, List.find?_singleton, beq_self_eq_true, reduceIte,
    Option.none_or]

theorem isRead_after (clock : (Json.int now).IsProper)
    (texts : ItemsProper
      [.str name, .str description, .ofOption (fun tags => .arr (tags.map .str)) tags])
    (parsed : graph.IsParsed) (joined : store.StringsJoined) (held : store.saved now = .ok before)
    (saves : store.save now name description graph tags = (.ok template, after)) :
    ∀ kept ∈ before ++ [template], kept.IsRead :=
  List.forall_mem_append.mpr ⟨isRead_of_saved clock joined held,
    List.forall_mem_singleton.mpr (isRead_of_save clock texts parsed saves)⟩

theorem saved_of_unshadowed (isRead : ∀ kept ∈ before ++ [template], kept.IsRead)
    (held : store.saved now = .ok before)
    (saves : store.save now name description graph tags = (.ok template, after))
    (same : fresh.text = after.text) (unshadowed : ∀ kept ∈ before ++ [template], kept.Unshadowed)
    (later : Int) :
    fresh.saved later = .ok (before.map (·.documented) ++ [template.documented]) := by
  obtain ⟨fits, again⟩ := saved_of_save held saves same later
  rw [again, templatesOf_of_unshadowed isRead fits unshadowed later, List.map_append]
  rfl

theorem find?_of_unshadowed (isRead : ∀ kept ∈ before ++ [template], kept.IsRead)
    (held : store.saved now = .ok before)
    (saves : store.save now name description graph tags = (.ok template, after))
    (same : fresh.text = after.text) (unshadowed : ∀ kept ∈ before ++ [template], kept.Unshadowed)
    (new : ∀ earlier ∈ before, earlier.id ≠ template.id) (later : Int) :
    fresh.find? later template.id = .ok (some template.documented) := by
  have other : ∀ kept ∈ before.map (·.documented), kept.id ≠ template.documented.id := by
    intro kept member
    obtain ⟨source, isEarlier, rfl⟩ := List.mem_map.mp member
    exact new source isEarlier
  exact find?_of_saved (saved_of_unshadowed isRead held saves same unshadowed later) other

/-- A drawing and the templates beside it are there again after the drawing was saved if and only if
a document keeps each of them as it is. Otherwise what is there again is what the document keeps,
unless an undeclared field stands for a declared one that is null. -/
theorem save_keeps_iff (clock : (Json.int now).IsProper)
    (texts : ItemsProper
      [.str name, .str description, .ofOption (fun tags => .arr (tags.map .str)) tags])
    (parsed : graph.IsParsed) (joined : store.StringsJoined) (held : store.saved now = .ok before)
    (saves : store.save now name description graph tags = (.ok template, after))
    (same : fresh.text = after.text) (later : Int) :
    (fresh.saved later = .ok (before ++ [template]) ↔
        ∀ kept ∈ before ++ [template], kept.IsKept) ∧
      ((∀ kept ∈ before ++ [template], kept.Unshadowed) →
        fresh.saved later = .ok (before.map (·.documented) ++ [template.documented]) ∧
        ((∀ earlier ∈ before, earlier.id ≠ template.id) →
          (fresh.find? later template.id = .ok (some template) ↔ template.IsKept))) := by
  have isRead := isRead_after clock texts parsed joined held saves
  obtain ⟨fits, again⟩ := saved_of_save held saves same later
  refine ⟨again ▸ templatesOf_eq_iff isRead fits later, fun unshadowed => ?_⟩
  refine ⟨saved_of_unshadowed isRead held saves same unshadowed later, fun new => ?_⟩
  rw [find?_of_unshadowed isRead held saves same unshadowed new later, Except.ok.injEq,
    Option.some.injEq]
  exact Template.documented_eq_self_iff (isRead template List.mem_concat_self)
    (unshadowed template List.mem_concat_self)

/-- A drawing of one node with a field that only the canvas reads. -/
def coloured (colour : Json) : Graph :=
  ⟨[{ Sample.start "s" 84532 with extras := [("color", colour)] }], []⟩

def colouredNodes (colour : Json) : Json :=
  .arr [.obj [("id", .str "s"), ("type", .str "start"), ("color", colour),
    ("data", .obj [("chain", .int 84532), ("token", .str "USDC")])]]

theorem isProper_colouredNodes {colour : Json} (proper : colour.IsProper) :
    (colouredNodes colour).IsProper := by
  simp only [colouredNodes, IsProper, ItemsProper, Json.FieldsProper, Fields.names, List.map_cons,
    List.map_nil, proper, true_and]
  decide

theorem isParsed_coloured {colour : Json} (proper : colour.IsProper)
    (reading : Graph.readNodes (colouredNodes colour) = .ok (coloured colour).nodes) :
    (coloured colour).IsParsed :=
  ⟨⟨colouredNodes colour, isProper_colouredNodes proper, reading⟩, ⟨.arr [], trivial, rfl⟩⟩

theorem isProper_moment : (Json.int 1700000000000).IsProper := by
  unfold IsProper
  decide

theorem stringsJoined_empty : empty.StringsJoined := nofun

theorem unshadowed_coloured (colour : Json) :
    ∀ node ∈ (coloured colour).nodes, node.Unshadowed := by
  rw [coloured, List.forall_mem_singleton]
  exact fun _ _ _ taken => nomatch taken

theorem isKept_coloured {colour : Json} (some_ : colour ≠ .null) (isFinite : colour.isFinite = true) :
    ∀ node ∈ (coloured colour).nodes, node.IsKept := by
  have free := unshadowed_coloured colour
  rw [coloured, List.forall_mem_singleton] at free ⊢
  exact {
    extras := ⟨List.forall_mem_singleton.mpr some_, List.forall_mem_singleton.mpr isFinite⟩
    payload := ⟨nofun, nofun⟩
    parameters := nofun
    unshadowed := free }

theorem save_keeps_colour : ∃ template after,
    empty.save 1700000000000 "Plan" "" (coloured (.str "red")) (some ["draft"]) =
      (.ok template, after) ∧
    (⟨after.text, 0⟩ : TemplateStore).saved 1700000000001 = .ok [template] ∧
    (⟨after.text, 0⟩ : TemplateStore).find? 1700000000001 template.id = .ok (some template) := by
  have texts : ItemsProper [.str "Plan", .str "", .arr [.str "draft"]] := by
    simp only [ItemsProper, IsProper]
    decide
  have proper : (Json.str "red").IsProper := by
    unfold IsProper
    decide
  have parsed : (coloured (.str "red")).IsParsed := isParsed_coloured proper rfl
  obtain ⟨template, after, saves⟩ : ∃ template after,
      empty.save 1700000000000 "Plan" "" (coloured (.str "red")) (some ["draft"]) =
        (.ok template, after) := ⟨_, _, rfl⟩
  have isNot : Json.str "red" ≠ .null := fun same => by cases same
  have own : template.IsKept := by
    obtain ⟨rfl, -⟩ := save_eq_ok saves
    exact ⟨isKept_coloured isNot rfl, List.forall_mem_nil _⟩
  have kept : ∀ one ∈ [] ++ [template], one.IsKept := List.forall_mem_singleton.mpr own
  have free : ∀ one ∈ [] ++ [template], one.Unshadowed :=
    fun one member => (kept one member).unshadowed
  have same : (⟨after.text, 0⟩ : TemplateStore).text = after.text := rfl
  obtain ⟨saved, found⟩ :=
    save_keeps_iff isProper_moment texts parsed stringsJoined_empty rfl saves same 1700000000001
  exact ⟨template, after, saves, saved.mpr kept, ((found free).2 (List.forall_mem_nil _)).mpr own⟩

theorem save_drops_null : (coloured .null).IsParsed ∧ ∃ template after,
    empty.save 1700000000000 "Plan" "" (coloured .null) none = (.ok template, after) ∧
    (⟨after.text, 0⟩ : TemplateStore).find? 1700000000001 template.id ≠ .ok (some template) := by
  have texts : ItemsProper [.str "Plan", .str "", .null] := by
    simp only [ItemsProper, IsProper]
    decide
  have parsed : (coloured .null).IsParsed := isParsed_coloured trivial rfl
  obtain ⟨template, after, saves⟩ : ∃ template after,
      empty.save 1700000000000 "Plan" "" (coloured .null) none = (.ok template, after) :=
    ⟨_, _, rfl⟩
  have same : (⟨after.text, 0⟩ : TemplateStore).text = after.text := rfl
  have nodes : template.nodes = (coloured .null).nodes := by
    obtain ⟨rfl, -⟩ := save_eq_ok saves
    rfl
  have isRead := isRead_after isProper_moment texts parsed stringsJoined_empty rfl saves
  have free : ∀ one ∈ [] ++ [template], one.Unshadowed := by
    obtain ⟨rfl, -⟩ := save_eq_ok saves
    exact List.forall_mem_singleton.mpr ⟨unshadowed_coloured .null, List.forall_mem_nil _⟩
  refine ⟨parsed, template, after, saves, fun found => ?_⟩
  rw [find?_of_unshadowed isRead rfl saves same free (List.forall_mem_nil _), Except.ok.injEq,
    Option.some.injEq, Template.documented_eq_self_iff (isRead template List.mem_cons_self)
      (free template List.mem_cons_self)] at found
  have kept := found.nodes
  rw [nodes, coloured, List.forall_mem_singleton] at kept
  exact kept.extras.present ("color", .null) List.mem_cons_self rfl

end TemplateStore

end ChainFlow

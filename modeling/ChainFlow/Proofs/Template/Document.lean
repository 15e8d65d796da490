import ChainFlow.Proofs.Node.Document
import ChainFlow.Proofs.Template.Edge
import ChainFlow.Template.Basic

/-!
# Templates in documents

A template reads back from a document as the document keeps it, at whatever time it is read: both of
its times are written.
-/

namespace ChainFlow.Template

open Schema
open Json (IsProper ItemsProper)

theorem wellNamed_labels : WellNamed labels := ⟨by decide, by decide, by decide⟩

/-- The values of a template beside its nodes and edges. -/
def plainValues (template : Template) : List Json :=
  [.str template.id, .str template.name, .str template.description, .int template.created,
    .int template.updated, .ofOption (fun tags => .arr (tags.map .str)) template.tags]

/-- What every template is that was read. -/
structure IsRead (template : Template) : Prop where
  values : ItemsProper template.plainValues
  nodes : ∀ node ∈ template.nodes, node.IsRead
  edges : ∀ edge ∈ template.edges, edge.IsRead

structure Unshadowed (template : Template) : Prop where
  nodes : ∀ node ∈ template.nodes, node.Unshadowed
  edges : ∀ edge ∈ template.edges, edge.Unshadowed

/-- A template as a document keeps it. -/
def documented (template : Template) : Template :=
  { template with
    nodes := template.nodes.map Node.documented
    edges := template.edges.map Edge.documented }

variable {template : Template}

theorem dump_eq (template : Template) :
    template.dump .document = .obj (wireFields (labels.zip (template.values .document))) := by
  have wellNamed : WellNamed ((labels.zip (template.values .document)).map (·.1)) := wellNamed_labels
  have written := record_eq wellNamed (areLeft_nil labels)
  rw [documented_nil, List.append_nil] at written
  exact written

theorem rereads_tags : Rereads (list text) (fun tags => .arr (tags.map .str)) :=
  rereads_list fun _ => rfl

/-- Beside its nodes and edges, a template reads back as it was. -/
theorem read_dump_eq (template : Template) (now : Int) :
    Template.read now (template.dump .document) =
      ((fun nodes edges => ({ template with nodes, edges } : Template))
        <$> (Node.readList .document (.arr (template.nodes.map (·.dump .document)))).under
          (.field "nodes")
        <*> (Edge.readList .document (.arr (template.edges.map (·.dump .document)))).under
          (.field "edges")) := by
  have wellNamed : WellNamed ((labels.zip (template.values .document)).map (·.1)) := wellNamed_labels
  have left : AreLeft ((labels.zip (template.values .document)).map (·.1)) [] := areLeft_nil labels
  have free : Schema.Unshadowed (labels.zip (template.values .document)) [] :=
    fun _ _ _ => List.not_mem_nil
  have shown : Shown (wireFields (labels.zip (template.values .document)) ++ Schema.documented [])
      labels (template.values .document) :=
    shown_of_forall fun field member => found?_of_declared wellNamed left free member
  rw [documented_nil, List.append_nil] at shown
  obtain ⟨id, name, description, nodes, edges, created, updated, tags, -⟩ := shown
  have nodesRead : withDefault (wireFields (labels.zip (template.values .document)))
      (.same "nodes") [] (Node.readList .document) =
        (Node.readList .document (.arr (template.nodes.map (·.dump .document)))).under
          (.field "nodes") := by
    unfold withDefault
    rw [nodes]
    rfl
  have edgesRead : withDefault (wireFields (labels.zip (template.values .document)))
      (.same "edges") [] (Edge.readList .document) =
        (Edge.readList .document (.arr (template.edges.map (·.dump .document)))).under
          (.field "edges") := by
    unfold withDefault
    rw [edges]
    rfl
  rw [dump_eq]
  unfold Template.read
  simp only [object, Reading.andThen]
  rw [rereads_text.required (Label.valueIn_of_shown id),
    rereads_text.required (Label.valueIn_of_shown name),
    rereads_text.withDefault "" (Label.valueIn_of_shown description), nodesRead, edgesRead,
    rereads_integer.withDefault now (Label.valueIn_of_shown created),
    rereads_integer.withDefault now (Label.valueIn_of_shown updated),
    rereads_tags.optional (Label.valueIn_of_shown tags)]
  generalize (Node.readList .document _).under _ = nodesReading
  generalize (Edge.readList .document _).under _ = edgesReading
  cases nodesReading <;> cases edgesReading <;> rfl

theorem read_dump (isRead : template.IsRead) (unshadowed : template.Unshadowed) (now : Int) :
    Template.read now (template.dump .document) = .ok template.documented := by
  have nodes : Node.readList .document (.arr (template.nodes.map (·.dump .document))) =
      .ok template.documented.nodes :=
    items_map (fun node member =>
      Node.read_dump (isRead.nodes node member) (unshadowed.nodes node member)) 0
  have edges : Edge.readList .document (.arr (template.edges.map (·.dump .document))) =
      .ok template.documented.edges :=
    items_map (fun edge member =>
      Edge.read_dump (isRead.edges edge member) (unshadowed.edges edge member)) 0
  rw [read_dump_eq, nodes, edges]
  rfl

/-- A template that a document keeps as it is. -/
structure IsKept (template : Template) : Prop where
  nodes : ∀ node ∈ template.nodes, node.IsKept
  edges : ∀ edge ∈ template.edges, edge.IsKept

theorem IsKept.unshadowed (kept : template.IsKept) : template.Unshadowed :=
  ⟨fun node member => (kept.nodes node member).unshadowed,
    fun edge member => (kept.edges edge member).unshadowed⟩

theorem IsKept.documented_eq_self (kept : template.IsKept) : template.documented = template := by
  have nodes : template.nodes.map Node.documented = template.nodes.map fun node => node :=
    List.map_congr_left fun node member => (kept.nodes node member).documented_eq_self
  have edges : template.edges.map Edge.documented = template.edges.map fun edge => edge :=
    List.map_congr_left fun edge member => (kept.edges edge member).documented_eq_self
  rw [List.map_id'] at nodes edges
  unfold documented
  rw [nodes, edges]

theorem isKept_of_read_dump (isRead : template.IsRead) {now : Int}
    (reading : Template.read now (template.dump .document) = .ok template) : template.IsKept := by
  rw [read_dump_eq] at reading
  obtain ⟨_, edges, one, edgesRead, same⟩ := Reading.apply_eq_ok_iff.mp reading
  obtain ⟨nodes, nodesRead, rfl⟩ := Reading.map_eq_ok_iff.mp one
  have sameNodes : nodes = template.nodes := congrArg Template.nodes same
  have sameEdges : edges = template.edges := congrArg Template.edges same
  subst sameNodes sameEdges
  refine ⟨fun node member => ?_, fun edge member => ?_⟩
  · refine Node.isKept_of_read_dump (isRead.nodes node member) ?_
    exact reads_of_items (Reading.under_eq_ok_iff.mp nodesRead) node member
  · refine Edge.isKept_of_read_dump (isRead.edges edge member) ?_
    exact reads_of_items (Reading.under_eq_ok_iff.mp edgesRead) edge member

theorem documented_eq_self_iff (isRead : template.IsRead) (unshadowed : template.Unshadowed) :
    template.documented = template ↔ template.IsKept := by
  refine ⟨fun same => ?_, IsKept.documented_eq_self⟩
  have reading := read_dump isRead unshadowed 0
  rw [same] at reading
  exact isKept_of_read_dump isRead reading

/-! ## What is written and read -/

theorem isProper_dump (isRead : template.IsRead) : (template.dump .document).IsProper := by
  have nodes : ItemsProper (template.nodes.map (·.dump .document)) := by
    refine Json.itemsProper_iff.mpr fun item member => ?_
    obtain ⟨node, isNode, rfl⟩ := List.mem_map.mp member
    exact Node.isProper_dump (isRead.nodes node isNode)
  have edges : ItemsProper (template.edges.map (·.dump .document)) := by
    refine Json.itemsProper_iff.mpr fun item member => ?_
    obtain ⟨edge, isEdge, rfl⟩ := List.mem_map.mp member
    exact Edge.isProper_dump (isRead.edges edge isEdge)
  obtain ⟨id, name, description, created, updated, tags, -⟩ := isRead.values
  have values : ItemsProper (template.values .document) :=
    ⟨id, name, description, nodes, edges, created, updated, tags, trivial⟩
  have wellNamed : WellNamed ((labels.zip (template.values .document)).map (·.1)) := wellNamed_labels
  have written := isProper_record wellNamed (areLeft_nil _) fun field member =>
    Json.itemsProper_iff.mp values field.2 (List.of_mem_zip member).2
  rw [documented_nil, List.append_nil] at written
  rw [dump_eq]
  exact written

theorem levels_dump_le (isRead : template.IsRead) (fits : template.fitsLevels = true) :
    (template.dump .document).levels ≤ levelLimit + 5 := by
  rw [fitsLevels, Bool.and_eq_true, List.all_eq_true, List.all_eq_true] at fits
  have nodes : (Json.arr (template.nodes.map (·.dump .document))).levels ≤ levelLimit + 4 := by
    refine Nat.succ_le_succ (levelsOfItems_le_iff.mpr fun item member => ?_)
    obtain ⟨node, isNode, rfl⟩ := List.mem_map.mp member
    exact Node.levels_dump_le (isRead.nodes node isNode) (fits.1 node isNode)
  have edges : (Json.arr (template.edges.map (·.dump .document))).levels ≤ levelLimit + 4 := by
    refine Nat.succ_le_succ (levelsOfItems_le_iff.mpr fun item member => ?_)
    obtain ⟨edge, isEdge, rfl⟩ := List.mem_map.mp member
    exact (Edge.levels_dump_le (isRead.edges edge isEdge) (fits.2 edge isEdge)).trans
      (Nat.add_le_add_left (by decide) levelLimit)
  have tags : (Json.ofOption (fun tags => .arr (tags.map .str)) template.tags).levels ≤ 2 := by
    cases template.tags with
    | none => decide
    | some tags =>
        refine Nat.succ_le_succ (levelsOfItems_le_iff.mpr fun item member => ?_)
        obtain ⟨tag, -, rfl⟩ := List.mem_map.mp member
        exact Nat.le_refl 1
  have values : ∀ value ∈ template.values .document, value.levels ≤ levelLimit + 4 := by
    have flat : 1 ≤ levelLimit + 4 := Nat.le_add_left 1 _
    simp only [Template.values, List.forall_mem_cons, List.not_mem_nil, false_imp_iff, implies_true,
      and_true]
    exact ⟨flat, flat, flat, nodes, edges, flat, flat, tags.trans (Nat.le_add_left 2 _)⟩
  have written : (Json.obj (wireFields (labels.zip (template.values .document)) ++
      Schema.documented [])).levels ≤ levelLimit + 5 :=
    levels_record_le (fun field member => values field.2 (List.of_mem_zip member).2)
      fun _ member => nomatch member
  rw [documented_nil, List.append_nil] at written
  rw [dump_eq]
  exact written

theorem isRead_of_read {now : Int} {value : Json} (clock : (Json.int now).IsProper)
    (proper : value.IsProper) (reading : Template.read now value = .ok template) :
    template.IsRead := by
  cases value with
  | obj fields =>
      obtain ⟨_, tags, seven, tagsRead, rfl⟩ := Reading.apply_eq_ok_iff.mp reading
      obtain ⟨_, updated, six, updatedRead, rfl⟩ := Reading.apply_eq_ok_iff.mp seven
      obtain ⟨_, created, five, createdRead, rfl⟩ := Reading.apply_eq_ok_iff.mp six
      obtain ⟨_, edges, four, edgesRead, rfl⟩ := Reading.apply_eq_ok_iff.mp five
      obtain ⟨_, nodes, three, nodesRead, rfl⟩ := Reading.apply_eq_ok_iff.mp four
      obtain ⟨_, description, two, descriptionRead, rfl⟩ := Reading.apply_eq_ok_iff.mp three
      obtain ⟨_, name, one, nameRead, rfl⟩ := Reading.apply_eq_ok_iff.mp two
      obtain ⟨id, idRead, rfl⟩ := Reading.map_eq_ok_iff.mp one
      have empty : (Json.str "").IsProper := List.isChain_nil
      refine ⟨?_, fun node member => ?_, fun edge member => ?_⟩
      · exact ⟨staysProper_text.required proper.2 idRead,
          staysProper_text.required proper.2 nameRead,
          staysProper_text.withDefault proper.2 empty descriptionRead,
          staysProper_integer.withDefault proper.2 clock createdRead,
          staysProper_integer.withDefault proper.2 clock updatedRead,
          (staysProper_list staysProper_text).optional proper.2 tagsRead, trivial⟩
      · obtain ⟨item, isProper, isRead⟩ := exists_of_withDefault proper.2 nodesRead node member
        exact Node.isRead_of_read isProper isRead
      · obtain ⟨item, isProper, isRead⟩ := exists_of_withDefault proper.2 edgesRead edge member
        exact Edge.isRead_of_read isProper isRead
  | _ => cases reading

end ChainFlow.Template

import ChainFlow.Graph.Basic
import ChainFlow.Proofs.Node.Full
import ChainFlow.Proofs.Result
import ChainFlow.Proofs.Template.Edge

/-!
# Drawings that read back

A drawing that was read, from whatever spellings, and is written in full under the names that
documents have is read again as it was (`Graph.dump_reads_back`).
-/

namespace ChainFlow

open Schema

/-! ## Edges -/

namespace Edge

/-- The fields that an edge was read from, and what it has from them beside its declared values. -/
structure Origin (edge : Edge) (fields : Fields) : Prop where
  whole : ∀ field ∈ fields, Text.hasLone field.1 = false
  extras : edge.extras = Schema.extras fields labels
  tell : Tell fields labels edge.values

variable {edge : Edge} {fields : Fields} {style : Style}

theorem origin_of_read {source : Source} {value : Json} (reading : Edge.read source value = .ok edge) :
    ∃ fields, value = .obj fields ∧ edge.Origin fields := by
  cases value with
  | obj fields =>
      unfold Edge.read at reading
      simp only [object, Reading.andThen] at reading
      split at reading
      · next result opened =>
          obtain ⟨rfl, whole⟩ := eq_of_openFields opened
          obtain ⟨_, animated, six, animatedRead, rfl⟩ := Reading.apply_eq_ok_iff.mp reading
          obtain ⟨_, shape, five, shapeRead, rfl⟩ := Reading.apply_eq_ok_iff.mp six
          obtain ⟨_, targetHandle, four, targetRead, rfl⟩ := Reading.apply_eq_ok_iff.mp five
          obtain ⟨_, sourceHandle, three, sourceRead, rfl⟩ := Reading.apply_eq_ok_iff.mp four
          obtain ⟨_, target, two, toRead, rfl⟩ := Reading.apply_eq_ok_iff.mp three
          obtain ⟨_, source, one, fromRead, rfl⟩ := Reading.apply_eq_ok_iff.mp two
          obtain ⟨id, idRead, rfl⟩ := Reading.map_eq_ok_iff.mp one
          exact ⟨_, rfl, {
            whole := whole
            extras := rfl
            tell := ⟨tells_of_text idRead, tells_of_text fromRead, tells_of_text toRead,
              rereads_text.tells_of_optional sourceRead, rereads_text.tells_of_optional targetRead,
              rereads_text.tells_of_optional shapeRead,
              rereads_boolean.tells_of_optional animatedRead, trivial⟩ }⟩
      · cases reading
  | _ => cases source <;> cases reading

theorem Origin.areOthers (origin : edge.Origin fields) (distinct : (Json.obj fields).IsDistinct) :
    AreOthers labels edge.extras := by
  rw [origin.extras]
  exact areOthers_extras distinct.1 origin.whole labels

theorem Origin.keeps (origin : edge.Origin fields) (finite : (Json.obj fields).isFinite = true)
    (style : Style) : style.Keeps edge.extras := by
  refine Style.keeps_of_forall fun field isExtra => ?_
  rw [origin.extras] at isExtra
  exact Style.untyped_of_isFinite
    (Json.fieldsFinite_iff.mp finite field (List.mem_of_mem_filter isExtra))

/-- An edge that is written in full reads back as it was. -/
theorem read_dump_full (full : style.thin = false) (others : AreOthers labels edge.extras)
    (separates : style.Separates labels edge.extras) (keeps : style.Keeps edge.extras)
    (source : Source) : Edge.read source (edge.dump style) = .ok edge := by
  have wellNamed : WellNamed ((labels.zip edge.values).map (·.1)) := wellNamed_labels
  have left : AreOthers ((labels.zip edge.values).map (·.1)) edge.extras := others
  have apart : style.Separates ((labels.zip edge.values).map (·.1)) edge.extras := separates
  have written : edge.dump style = .obj (style.named (labels.zip edge.values) ++ edge.extras) :=
    record_full full left apart keeps
  have extras : Schema.extras (style.named (labels.zip edge.values) ++ edge.extras) labels =
      edge.extras := extras_named wellNamed left apart
  obtain ⟨id, source, target, sourceHandle, targetHandle, shape, animated, -⟩ :=
    stands_named wellNamed left apart rfl
  rw [written]
  unfold Edge.read
  simp only [object, Reading.andThen, openFields_named left apart]
  rw [rereads_text.required id, rereads_text.required source, rereads_text.required target,
    rereads_text.optional sourceHandle, rereads_text.optional targetHandle,
    rereads_text.optional shape, rereads_boolean.optional animated, extras]
  rfl

end Edge

namespace Graph

/-! ## Lists of data -/

/-- Items that are no texts were read from the items of a list. -/
theorem mem_of_readEach {α : Type} {read : Json → Reading α} {source : Json} {values : List α}
    (noText : ∀ text value, read (.str text) ≠ .ok value)
    (reading : (itemsOf source >>= fun items => ofReading "list" (Schema.list read (.arr items))) =
      .ok values) {value : α} (member : value ∈ values) :
    ∃ items, source = .arr items ∧ ∃ item ∈ items, read item = .ok value := by
  obtain ⟨items, listed, done⟩ := Except.bind_eq_ok reading
  obtain ⟨item, isItem, isRead⟩ := mem_of_items (ofReading_eq_ok done) value member
  have isText : ∀ text, item ≠ .str text := by
    rintro text rfl
    exact noText text value isRead
  cases source with
  | arr own =>
      cases listed
      exact ⟨_, rfl, item, isItem, isRead⟩
  | obj fields =>
      cases listed
      obtain ⟨field, -, same⟩ := List.mem_map.mp isItem
      exact absurd same.symm (isText field.1)
  | str text =>
      cases listed
      obtain ⟨c, -, same⟩ := List.mem_map.mp isItem
      exact absurd same.symm (isText (String.singleton c))
  | null => cases listed
  | bool own => cases listed
  | int own => cases listed
  | float own => cases listed

variable {source : Json} {nodes : List Node} {edges : List Edge}

theorem origin_of_readNodes (reading : readNodes source = .ok nodes) {node : Node}
    (member : node ∈ nodes) :
    ∃ items, source = .arr items ∧ ∃ fields payload, .obj fields ∈ items ∧
      node.Origin fields payload := by
  have noText : ∀ text node, Node.read .document (.str text) ≠ .ok node := fun _ _ read => by cases read
  obtain ⟨items, isList, item, isItem, isRead⟩ := mem_of_readEach noText reading member
  obtain ⟨fields, payload, rfl, origin⟩ := Node.origin_of_read isRead
  exact ⟨items, isList, fields, payload, isItem, origin⟩

theorem origin_of_readEdges (reading : readEdges source = .ok edges) {edge : Edge}
    (member : edge ∈ edges) :
    ∃ items, source = .arr items ∧ ∃ fields, .obj fields ∈ items ∧ edge.Origin fields := by
  have noText : ∀ text edge, Edge.read .document (.str text) ≠ .ok edge := fun _ _ read => by cases read
  obtain ⟨items, isList, item, isItem, isRead⟩ := mem_of_readEach noText reading member
  obtain ⟨fields, rfl, origin⟩ := Edge.origin_of_read isRead
  exact ⟨items, isList, fields, isItem, origin⟩

/-! ## Drawings -/

def dumpNodes (style : Style) (nodes : List Node) : Json := .arr (nodes.map (·.dump style))

def dumpEdges (style : Style) (edges : List Edge) : Json := .arr (edges.map (·.dump style))

theorem readNodes_dumpNodes {style : Style}
    (reads : ∀ node ∈ nodes, Node.read .document (node.dump style) = .ok node) :
    readNodes (dumpNodes style nodes) = .ok nodes := congrArg (ofReading "list") (list_map reads)

theorem readEdges_dumpEdges {style : Style}
    (reads : ∀ edge ∈ edges, Edge.read .document (edge.dump style) = .ok edge) :
    readEdges (dumpEdges style edges) = .ok edges := congrArg (ofReading "list") (list_map reads)

section

variable {style : Style} (wire : style.wire = true) (full : style.thin = false)

include wire full

theorem readNodes_dump (distinct : source.IsDistinct)
    (numbers : style.exact = true ∨ source.isFinite = true)
    (reading : readNodes source = .ok nodes) : readNodes (dumpNodes style nodes) = .ok nodes := by
  refine readNodes_dumpNodes fun node member => ?_
  obtain ⟨items, rfl, fields, payload, isItem, origin⟩ := origin_of_readNodes reading member
  have formed := origin.isFormed (Json.itemsDistinct_iff.mp distinct _ isItem)
  have kept : node.KeptBy style := by
    rcases numbers with exact | finite
    · exact Node.keptBy_of_exact exact node
    · exact origin.keptBy (Json.itemsFinite_iff.mp finite _ isItem) style
  have separates := separates_of_wire wire node.kind.wellNamed_labels formed.payload
  exact Node.read_dump_full full formed separates kept .document

theorem readEdges_dump (distinct : source.IsDistinct)
    (numbers : style.exact = true ∨ source.isFinite = true)
    (reading : readEdges source = .ok edges) : readEdges (dumpEdges style edges) = .ok edges := by
  refine readEdges_dumpEdges fun edge member => ?_
  obtain ⟨items, rfl, fields, isItem, origin⟩ := origin_of_readEdges reading member
  have others := origin.areOthers (Json.itemsDistinct_iff.mp distinct _ isItem)
  have keeps : style.Keeps edge.extras := by
    rcases numbers with exact | finite
    · exact Style.keeps_of_forall fun _ _ => Style.untyped_of_exact exact _
    · exact origin.keeps (Json.itemsFinite_iff.mp finite _ isItem) style
  have separates := separates_of_wire wire Edge.wellNamed_labels others
  exact Edge.read_dump_full full others separates keeps .document

end

/-- A drawing that was read from data in which no name is repeated, and is written under the names
that documents have and with its null fields, is read again as it was and written again as before.
A style that does not keep all numbers needs data of finite ones. -/
theorem dump_reads_back {style : Style} (wire : style.wire = true) (full : style.thin = false)
    {rawNodes rawEdges : Json} (distinctNodes : rawNodes.IsDistinct)
    (distinctEdges : rawEdges.IsDistinct)
    (numbers : style.exact = true ∨ rawNodes.isFinite = true ∧ rawEdges.isFinite = true)
    (nodesRead : readNodes rawNodes = .ok nodes) (edgesRead : readEdges rawEdges = .ok edges) :
    readNodes (dumpNodes style nodes) = .ok nodes ∧
      readEdges (dumpEdges style edges) = .ok edges ∧
      (readNodes (dumpNodes style nodes)).map (dumpNodes style) = .ok (dumpNodes style nodes) ∧
      (readEdges (dumpEdges style edges)).map (dumpEdges style) = .ok (dumpEdges style edges) := by
  have nodesAgain : readNodes (dumpNodes style nodes) = .ok nodes :=
    readNodes_dump wire full distinctNodes (numbers.imp_right And.left) nodesRead
  have edgesAgain : readEdges (dumpEdges style edges) = .ok edges :=
    readEdges_dump wire full distinctEdges (numbers.imp_right And.right) edgesRead
  refine ⟨nodesAgain, edgesAgain, ?_, ?_⟩
  · rw [nodesAgain]
    rfl
  · rw [edgesAgain]
    rfl

/-- A bridge whose chain and estimate come under both of their names, a contract call under plain
names, and what only the canvas reads. -/
def mixedNodes : Json :=
  .arr [.obj [("id", .str "b"), ("color", .null), ("type", .str "bridge"),
      ("position", .obj [("y", .int 40)]),
      ("data", .obj [("to_chain", .arr [.null]), ("toChain", .str "11155111"), ("amount", .str "5"),
        ("estimated_time", .str "soon"), ("estimatedTime", .null)])],
    .obj [("id", .str "c"), ("type", .str "execute"),
      ("data", .obj [("contract_address", .str "0xabc"), ("action", .str "stake"),
        ("amount", .str ""), ("status", .str "failed"), ("params", .obj [("depth", .null)])])]]

def mixedEdges : Json :=
  .arr [.obj [("id", .str "1"), ("source", .str "b"), ("target", .str "c"), ("animated", .int 1),
    ("source_handle", .str "out"), ("width", .bool true)]]

theorem dump_reads_back_mixed : ∃ nodes edges, readNodes mixedNodes = .ok nodes ∧
    readEdges mixedEdges = .ok edges ∧ readNodes (dumpNodes .full nodes) = .ok nodes ∧
    readEdges (dumpEdges .full edges) = .ok edges := by
  have distinctNodes : mixedNodes.IsDistinct := by
    simp [mixedNodes, Json.IsDistinct, Json.ItemsDistinct, Json.FieldsDistinct]
  have distinctEdges : mixedEdges.IsDistinct := by
    simp [mixedEdges, Json.IsDistinct, Json.ItemsDistinct, Json.FieldsDistinct]
  obtain ⟨nodes, nodesRead⟩ : ∃ nodes, readNodes mixedNodes = .ok nodes := ⟨_, rfl⟩
  obtain ⟨edges, edgesRead⟩ : ∃ edges, readEdges mixedEdges = .ok edges := ⟨_, rfl⟩
  have wire : Style.full.wire = true := rfl
  obtain ⟨nodesAgain, edgesAgain, -⟩ :=
    dump_reads_back wire rfl distinctNodes distinctEdges (.inr ⟨rfl, rfl⟩) nodesRead edgesRead
  exact ⟨nodes, edges, nodesRead, edgesRead, nodesAgain, edgesAgain⟩

end Graph

end ChainFlow

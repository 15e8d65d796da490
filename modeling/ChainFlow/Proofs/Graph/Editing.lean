import ChainFlow.Graph.Basic
import ChainFlow.Proofs.Graph.Reach
import ChainFlow.Proofs.Node.Setting
import ChainFlow.Proofs.Result

/-!
# Editing a drawing

A drawing is well formed if its nodes have distinct ids and its edges lead from node to node. Every
edit keeps it so that puts only new ids and edges between known ones into it (`WellFormed.edited`),
and with that every history of such edits does. A well-formed drawing is never reported for a repeated
id or an unknown end of an edge.
-/

namespace ChainFlow.Graph

structure WellFormed (graph : Graph) : Prop where
  distinct : (graph.nodes.map Node.id).Nodup
  known : ∀ edge ∈ graph.edges, Known graph.nodes edge.source ∧ Known graph.nodes edge.target

inductive Edit where
  | addNode (node : Node)
  | update (id : String) (changes : Fields)
  | removeNode (id : String)
  | addEdge (edge : Edge)
  | removeEdge (id : String)
  | clear

/-- A drawing after an edit. An update that is refused leaves it as it was. -/
def edited (graph : Graph) : Edit → Graph
  | .addNode node => graph.addNode node
  | .update id changes => (graph.update id changes).toOption.getD graph
  | .removeNode id => graph.removeNode id
  | .addEdge edge => graph.addEdge edge
  | .removeEdge id => graph.removeEdge id
  | .clear => empty

def afterEdits (graph : Graph) (edits : List Edit) : Graph := edits.foldl edited graph

/-- Whether what an edit adds is a node of a new id or an edge between ids that are there. -/
def Edit.Fits (graph : Graph) : Edit → Prop
  | .addNode node => ¬Known graph.nodes node.id
  | .addEdge edge => Known graph.nodes edge.source ∧ Known graph.nodes edge.target
  | _ => True

/-- Whether each of some edits fits the drawing that it is made on. -/
def Fit : Graph → List Edit → Prop
  | _, [] => True
  | graph, edit :: edits => edit.Fits graph ∧ (graph.edited edit).Fit edits

/-! ## Nodes of an id -/

section

variable {nodes : List Node} {id : String}

theorem known_iff_mem : Known nodes id ↔ id ∈ nodes.map Node.id := by
  rw [List.mem_map]
  rfl

theorem Known.filter (known : Known nodes id) {gone : String} (other : id ≠ gone) :
    Known (nodes.filter (·.id ≠ gone)) id := by
  obtain ⟨node, member, rfl⟩ := known
  exact ⟨node, List.mem_filter.mpr ⟨member, decide_eq_true other⟩, rfl⟩

theorem changeFirst_eq (id : String) (change : Node → Node) (nodes : List Node) :
    (¬Known nodes id ∧ changeFirst id change nodes = nodes) ∨
    ∃ earlier node later, node.id = id ∧ nodes = earlier ++ node :: later ∧
      changeFirst id change nodes = earlier ++ change node :: later := by
  induction nodes with
  | nil => exact .inl ⟨fun ⟨_, member, _⟩ => List.not_mem_nil member, rfl⟩
  | cons node nodes ih =>
      unfold changeFirst
      by_cases own : node.id = id
      · rw [if_pos (beq_iff_eq.mpr own)]
        exact .inr ⟨[], node, nodes, own, rfl, rfl⟩
      · rw [if_neg (mt beq_iff_eq.mp own)]
        rcases ih with ⟨unknown, same⟩ | ⟨earlier, found, later, isFound, rfl, changed⟩
        · refine .inl ⟨?_, by rw [same]⟩
          rintro ⟨other, member, isOther⟩
          rcases List.mem_cons.mp member with rfl | rest
          · exact own isOther
          · exact unknown ⟨other, rest, isOther⟩
        · exact .inr ⟨node :: earlier, found, later, isFound, rfl, by rw [changed]; rfl⟩

/-- Where ids are distinct, no more than one node goes with an id. -/
theorem filter_of_distinct (distinct : (nodes.map Node.id).Nodup) :
    (¬Known nodes id ∧ nodes.filter (·.id ≠ id) = nodes) ∨
    ∃ earlier node later, node.id = id ∧ nodes = earlier ++ node :: later ∧
      nodes.filter (·.id ≠ id) = earlier ++ later := by
  by_cases known : Known nodes id
  · obtain ⟨node, member, rfl⟩ := known
    obtain ⟨earlier, later, rfl⟩ := List.append_of_mem member
    refine .inr ⟨earlier, node, later, rfl, rfl, ?_⟩
    rw [List.map_append, List.map_cons, List.nodup_middle, List.nodup_cons, ← List.map_append]
      at distinct
    have others : (earlier ++ later).filter (·.id ≠ node.id) = earlier ++ later := by
      rw [List.filter_eq_self]
      intro other member
      rw [decide_eq_true_iff]
      intro same
      exact distinct.1 (same ▸ List.mem_map_of_mem member)
    rw [List.filter_append, List.filter_cons_of_neg (by simp), ← List.filter_append, others]
  · refine .inl ⟨known, ?_⟩
    rw [List.filter_eq_self]
    intro node member
    rw [decide_eq_true_iff]
    exact fun same => known ⟨node, member, same⟩

theorem known_append {others : List Node} :
    Known (nodes ++ others) id ↔ Known nodes id ∨ Known others id := by
  simp only [known_iff_mem, List.map_append, List.mem_append]

end

/-! ## What an edit does -/

variable {graph : Graph}

/-- Only the payload of the node of an id is changed, and there only what changes are for; of several
changes for one name the last counts. -/
structure Updates (id : String) (changes : Fields) (before after : Graph) : Prop where
  edges : after.edges = before.edges
  nodes : after.nodes = before.nodes ∧
      (¬Known before.nodes id ∨ ∃ name ∈ ["self", "node_id"], name ∈ Fields.names changes) ∨
    ∃ earlier node changed later, node.id = id ∧ before.nodes = earlier ++ node :: later ∧
      after.nodes = earlier ++ changed :: later ∧ node.SameOutside changed ∧
      ∀ name, changed.field? name = (Fields.get? changes.reverse name).or (node.field? name)

/-- The node of an id goes, and with it the edges at it; all else stays in its order. -/
structure Removes (id : String) (before after : Graph) : Prop where
  nodes : ¬Known before.nodes id ∧ after = before ∨
    ∃ earlier node later, node.id = id ∧ before.nodes = earlier ++ node :: later ∧
      after.nodes = earlier ++ later
  gone : ¬Known after.nodes id
  edges : after.edges = before.edges.filter fun edge => edge.source ≠ id ∧ edge.target ≠ id

def Edit.Makes (before after : Graph) : Edit → Prop
  | .addNode node => after.nodes = before.nodes ++ [node] ∧ after.edges = before.edges
  | .update id changes => Updates id changes before after
  | .removeNode id => Removes id before after
  | .addEdge edge => after.nodes = before.nodes ∧ after.edges = before.edges ++ [edge]
  | .removeEdge id => after.nodes = before.nodes ∧ after.edges = before.edges.filter (·.id ≠ id)
  | .clear => after.nodes = [] ∧ after.edges = []

theorem updates_edited (graph : Graph) (id : String) (changes : Fields) :
    Updates id changes graph (graph.edited (.update id changes)) := by
  cases found : changes.find? fun field => ["self", "node_id"].contains field.1 with
  | some field =>
      have refused : graph.edited (.update id changes) = graph := by
        simp only [edited, update, besides, found]
        rfl
      have reserved := List.find?_some found
      have member := List.mem_of_find?_eq_some found
      rw [refused]
      refine ⟨rfl, .inl ⟨rfl, .inr ⟨field.1, ?_, Fields.mem_names member⟩⟩⟩
      simpa using reserved
  | none =>
      have changed : graph.edited (.update id changes) =
          { graph with nodes := changeFirst id (·.setAll changes) graph.nodes } := by
        simp only [edited, update, besides, found]
        rfl
      rw [changed]
      refine ⟨rfl, ?_⟩
      rcases changeFirst_eq id (·.setAll changes) graph.nodes with
        ⟨unknown, same⟩ | ⟨earlier, node, later, own, before, after⟩
      · exact .inl ⟨same, .inl unknown⟩
      · exact .inr ⟨earlier, node, node.setAll changes, later, own, before, after,
          node.sameOutside_setAll changes, node.field?_setAll changes⟩

theorem Updates.ids {id : String} {changes : Fields} {after : Graph}
    (updates : Updates id changes graph after) :
    after.nodes.map Node.id = graph.nodes.map Node.id := by
  rcases updates.nodes with ⟨same, _⟩ | ⟨earlier, node, changed, later, _, before, after, outside, _⟩
  · rw [same]
  · rw [before, after, List.map_append, List.map_append, List.map_cons, List.map_cons, outside.id]

theorem removes_edited (formed : graph.WellFormed) (id : String) :
    Removes id graph (graph.edited (.removeNode id)) := by
  have edges : (graph.removeNode id).edges =
      graph.edges.filter fun edge => edge.source ≠ id ∧ edge.target ≠ id := by
    simp only [removeNode, Bool.decide_and]
  refine ⟨?_, ?_, edges⟩
  · rcases filter_of_distinct formed.distinct with ⟨unknown, same⟩ | split
    · have apart : graph.edges.filter (fun edge => edge.source ≠ id ∧ edge.target ≠ id) =
          graph.edges := by
        rw [List.filter_eq_self]
        intro edge member
        obtain ⟨source, target⟩ := formed.known edge member
        rw [decide_eq_true_iff]
        exact ⟨fun same => unknown (same ▸ source), fun same => unknown (same ▸ target)⟩
      exact .inl ⟨unknown, congrArg₂ Graph.mk same (edges.trans apart)⟩
    · exact .inr split
  · rintro ⟨node, member, own⟩
    have other := (List.mem_filter.mp member).2
    simp [own] at other

/-! ## Keeping a drawing well formed -/

theorem wellFormed_empty : empty.WellFormed := ⟨List.nodup_nil, fun _ member => nomatch member⟩

theorem WellFormed.edited (formed : graph.WellFormed) {edit : Edit} (fits : edit.Fits graph) :
    (graph.edited edit).WellFormed := by
  cases edit with
  | addNode node =>
      constructor
      · change ((graph.nodes ++ [node]).map Node.id).Nodup
        rw [List.map_append, List.nodup_append']
        refine ⟨formed.distinct, List.nodup_singleton _, ?_⟩
        rintro id member own
        rw [List.mem_singleton.mp own] at member
        exact fits (known_iff_mem.mpr member)
      · intro edge member
        obtain ⟨source, target⟩ := formed.known edge member
        exact ⟨known_append.mpr (.inl source), known_append.mpr (.inl target)⟩
  | update id changes =>
      have updates := updates_edited graph id changes
      constructor
      · rw [updates.ids]
        exact formed.distinct
      · intro edge member
        rw [updates.edges] at member
        simpa only [known_iff_mem, updates.ids] using formed.known edge member
  | removeNode id =>
      constructor
      · exact formed.distinct.sublist (List.filter_sublist.map Node.id)
      · intro edge member
        obtain ⟨old, apart⟩ := List.mem_filter.mp member
        rw [Bool.and_eq_true, decide_eq_true_iff, decide_eq_true_iff] at apart
        exact ⟨(formed.known edge old).1.filter apart.1, (formed.known edge old).2.filter apart.2⟩
  | addEdge edge =>
      constructor
      · exact formed.distinct
      · intro other member
        rcases List.mem_append.mp member with old | new
        · exact formed.known other old
        · rw [List.mem_singleton.mp new]
          exact fits
  | removeEdge id =>
      exact ⟨formed.distinct, fun edge member => formed.known edge (List.mem_of_mem_filter member)⟩
  | clear => exact wellFormed_empty

theorem WellFormed.makes (formed : graph.WellFormed) (edit : Edit) :
    edit.Makes graph (graph.edited edit) := by
  cases edit with
  | addNode node => exact ⟨rfl, rfl⟩
  | update id changes => exact updates_edited graph id changes
  | removeNode id => exact removes_edited formed id
  | addEdge edge => exact ⟨rfl, rfl⟩
  | removeEdge id => exact ⟨rfl, rfl⟩
  | clear => exact ⟨rfl, rfl⟩

theorem WellFormed.afterEdits (formed : graph.WellFormed) {earlier later : List Edit}
    (fit : graph.Fit (earlier ++ later)) :
    (graph.afterEdits earlier).WellFormed ∧ (graph.afterEdits earlier).Fit later := by
  induction earlier generalizing graph with
  | nil => exact ⟨formed, fit⟩
  | cons edit earlier ih => exact ih (formed.edited fit.1) fit.2

/-! ## What is reported -/

theorem duplicates_eq_nil {seen : List String} {nodes : List Node}
    (distinct : (nodes.map Node.id).Nodup) (fresh : ∀ node ∈ nodes, node.id ∉ seen) :
    duplicates seen nodes = [] := by
  induction nodes generalizing seen with
  | nil => rfl
  | cons node nodes ih =>
      rw [List.map_cons, List.nodup_cons] at distinct
      unfold duplicates
      rw [if_neg (by simpa using fresh node List.mem_cons_self)]
      refine ih distinct.2 fun other member => ?_
      rw [List.mem_cons, not_or]
      refine ⟨fun same => distinct.1 ?_, fresh other (List.mem_cons_of_mem node member)⟩
      exact same ▸ List.mem_map_of_mem member

theorem edgeIssues_eq_nil {nodes : List Node} {edge : Edge} (source : Known nodes edge.source)
    (target : Known nodes edge.target) : edgeIssues nodes edge = [] := by
  obtain ⟨first, isFirst, begins⟩ := source
  obtain ⟨second, isSecond, ends⟩ := target
  have known {id : String} {node : Node} (member : node ∈ nodes) (own : node.id = id) :
      nodes.any (·.id == id) = true := List.any_eq_true.mpr ⟨node, member, beq_iff_eq.mpr own⟩
  simp only [edgeIssues, known isFirst begins, known isSecond ends, if_true, List.append_nil]

/-- Of a well-formed drawing only its starts and its chains are reported. -/
theorem WellFormed.issues_eq (formed : graph.WellFormed) :
    Graph.issues graph.nodes graph.edges =
      (startIssues graph.nodes ++ ·) <$> allChainIssues graph.nodes := by
  have once : duplicates [] graph.nodes = [] :=
    duplicates_eq_nil formed.distinct fun _ _ => List.not_mem_nil
  have joined : graph.edges.flatMap (edgeIssues graph.nodes) = [] :=
    List.flatMap_eq_nil_iff.mpr fun edge member =>
      edgeIssues_eq_nil (formed.known edge member).1 (formed.known edge member).2
  simp only [Graph.issues, once, joined, List.map_nil, List.nil_append, List.append_nil]
  cases allChainIssues graph.nodes <;> rfl

/-- Whether an issue is that an id is repeated or that an end of an edge is unknown. -/
def IsAboutIds (issue : String) : Prop :=
  (∃ id : String, issue = s!"Duplicate node id: {id}") ∨
  ∃ edge id : String, issue = s!"Edge {edge} references unknown source node {id}" ∨
    issue = s!"Edge {edge} references unknown target node {id}"

section

variable {issue : String}

theorem head_append {text : String} {first : Char} (head : text.toList.head? = some first)
    (rest : String) : (text ++ rest).toList.head? = some first := by
  rw [String.toList_append, List.head?_append, head, Option.some_or]

theorem head_of_isAboutIds (aboutIds : IsAboutIds issue) :
    issue.toList.head? = some 'D' ∨ issue.toList.head? = some 'E' := by
  rcases aboutIds with ⟨id, rfl⟩ | ⟨edge, id, rfl | rfl⟩
  · exact .inl (head_append rfl id)
  · exact .inr (head_append (head_append (head_append rfl edge) _) id)
  · exact .inr (head_append (head_append (head_append rfl edge) _) id)

theorem head_of_startIssues {nodes : List Node} (member : issue ∈ startIssues nodes) :
    issue.toList.head? = some 'F' := by
  unfold startIssues at member
  split at member
  · rw [List.mem_singleton.mp member]
    rfl
  · cases member
  · rw [List.mem_singleton.mp member]
    exact head_append rfl _

theorem head_of_chainIssues {node : Node} {field : String} {found : List String}
    (checked : chainIssues node field = .ok found) (member : issue ∈ found) :
    issue.toList.head? = some 'N' := by
  unfold chainIssues at checked
  split at checked
  · cases checked
    cases member
  · cases checked
    cases member
  · obtain ⟨supported, _, answered⟩ := Except.bind_eq_ok checked
    split at answered
    · cases answered
      cases member
    · cases answered
      rw [List.mem_singleton.mp member]
      exact head_append (head_append (head_append rfl node.id) _) _

theorem head_of_allChainIssues {nodes : List Node} {found : List String}
    (checked : allChainIssues nodes = .ok found) (member : issue ∈ found) :
    issue.toList.head? = some 'N' := by
  induction nodes generalizing found with
  | nil =>
      cases checked
      cases member
  | cons node nodes ih =>
      obtain ⟨own, ownChecked, next⟩ := Except.bind_eq_ok checked
      obtain ⟨rest, restChecked, rfl⟩ := Except.map_eq_ok next
      obtain ⟨chain, chainChecked, then_⟩ := Except.bind_eq_ok ownChecked
      obtain ⟨toChain, toChainChecked, rfl⟩ := Except.map_eq_ok then_
      rcases List.mem_append.mp member with first | later
      · rcases List.mem_append.mp first with one | two
        · exact head_of_chainIssues chainChecked one
        · exact head_of_chainIssues toChainChecked two
      · exact ih restChecked later

end

theorem WellFormed.unreported (formed : graph.WellFormed) {issues : List String}
    (checked : Graph.issues graph.nodes graph.edges = .ok issues) :
    ∀ issue ∈ issues, ¬IsAboutIds issue := by
  intro issue member aboutIds
  rw [formed.issues_eq] at checked
  obtain ⟨chains, chainsChecked, rfl⟩ := Except.map_eq_ok checked
  rcases List.mem_append.mp member with start | chain
  · have head := head_of_startIssues start
    rcases head_of_isAboutIds aboutIds with other | other <;> cases head.symm.trans other
  · have head := head_of_allChainIssues chainsChecked chain
    rcases head_of_isAboutIds aboutIds with other | other <;> cases head.symm.trans other

/-! ## Histories -/

/-- However a drawing is edited, it stays well formed, and each edit makes of it what it is for. -/
theorem editing_keeps (formed : graph.WellFormed) {edits : List Edit} (fit : graph.Fit edits)
    {earlier later : List Edit} {edit : Edit} (split : edits = earlier ++ edit :: later) :
    edit.Makes (graph.afterEdits earlier) (graph.afterEdits (earlier ++ [edit])) ∧
    (graph.afterEdits (earlier ++ [edit])).WellFormed ∧
    ∀ issues, Graph.issues (graph.afterEdits (earlier ++ [edit])).nodes
        (graph.afterEdits (earlier ++ [edit])).edges = .ok issues →
      ∀ issue ∈ issues, ¬IsAboutIds issue := by
  rw [split] at fit
  obtain ⟨before, fits, _⟩ := formed.afterEdits fit
  have step : graph.afterEdits (earlier ++ [edit]) = (graph.afterEdits earlier).edited edit :=
    List.foldl_append
  rw [step]
  exact ⟨before.makes edit, before.edited fits, fun _ => (before.edited fits).unreported⟩

/-- A start and a bridge with an edge to itself. -/
def looped : Graph :=
  ⟨[Sample.start "s" 84532, Sample.bridge "b" 11155111 "5"],
    [Sample.edge "s" "b", Sample.edge "b" "b"]⟩

def redrawing : List Edit :=
  [.addNode (Sample.finish "e"), .addEdge (Sample.edge "b" "e"),
    .update "b" [("amount", .str "7"), ("color", .str "red")]]

theorem editing_keeps_looped :
    looped.WellFormed ∧ looped.Fit (redrawing ++ [.removeNode "b"]) ∧
    Removes "b" (looped.afterEdits redrawing) (looped.afterEdits (redrawing ++ [.removeNode "b"])) := by
  have formed : looped.WellFormed := by
    constructor
    · decide
    · simp [looped, known_iff_mem, Sample.edge, Sample.start, Sample.bridge, Sample.node]
  have fit : looped.Fit (redrawing ++ [.removeNode "b"]) := by
    refine ⟨?_, ?_, trivial, trivial, trivial⟩
    · simp only [Edit.Fits, known_iff_mem]
      decide
    · simp only [Edit.Fits, known_iff_mem]
      decide
  exact ⟨formed, fit, (editing_keeps formed fit rfl).1⟩

end ChainFlow.Graph

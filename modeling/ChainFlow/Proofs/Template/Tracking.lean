import ChainFlow.Proofs.Template.Ledger

/-!
# Stores that follow a ledger

Each command to a store reads the whole file, changes the list and writes it again. For what the canvas
draws the store answers as the ledger does and holds the same templates, whatever is asked of it and
for how long (`tracks_run`).
-/

namespace ChainFlow

open Schema
open Json (ItemsProper)

namespace TemplateStore

def perform (store : TemplateStore) (now : Int) : Ledger.Command → Ledger.Answer × TemplateStore
  | .save name description graph tags =>
    let done := store.save now name description graph tags
    (.saved done.1, done.2)
  | .update id updates =>
    let done := store.update now id updates
    (.updated done.1, done.2)
  | .delete id =>
    let done := store.delete now id
    (.deleted done.1, done.2)

def run (store : TemplateStore) (calls : List (Int × Ledger.Command)) :
    List Ledger.Answer × TemplateStore := Ledger.runWith perform store calls

/-! ## What a store holds -/

/-- A store whose file gives back the templates that were written into it. -/
structure Holds (store : TemplateStore) (templates : List Template) : Prop where
  file : store.text = none ∧ templates = [] ∨ store.text = some (textOf templates)
  clean : ∀ template ∈ templates, template.IsClean
  fits : templates.all (·.fitsLevels) = true

variable {store : TemplateStore} {templates : List Template} {now : Int}

theorem Holds.saved (holds : store.Holds templates) (now : Int) : store.saved now = .ok templates := by
  unfold TemplateStore.saved
  rcases holds.file with ⟨none, rfl⟩ | written
  · rw [none]
  · have isRead : ∀ template ∈ templates, template.IsRead :=
      fun template member => (holds.clean template member).isRead
    have isKept : ∀ template ∈ templates, template.IsKept :=
      fun template member => (holds.clean template member).isKept
    rw [written]
    exact (templatesOf_eq_iff isRead holds.fits now).mpr isKept

theorem orUnchanged_of_error {α : Type} {result : Except Fault (α × TemplateStore)} {fault : Fault}
    (failed : (store.orUnchanged result).1 = .error fault) : (store.orUnchanged result).2 = store := by
  cases result with
  | error _ => rfl
  | ok _ => cases failed

theorem orUnchanged_write {α : Type} (store : TemplateStore) (templates : List Template) (value : α) :
    store.orUnchanged (store.write templates >>= fun changed => .ok (value, changed)) =
      if templates.all (·.fitsLevels) then
        (.ok value, { store with text := some (textOf templates) })
      else (.error .tooNested, store) := by
  unfold write
  split <;> rfl

/-- A store that holds the templates of a ledger, and draws the same letters. -/
structure Tracks (store : TemplateStore) (ledger : Ledger) : Prop extends
    store.Holds ledger.templates where
  drawn : store.drawn = ledger.drawn

variable {ledger : Ledger}

theorem Tracks.newId (tracks : store.Tracks ledger) (now : Int) :
    (store.newId now).1 = ledger.newId now := by
  unfold Ledger.newId TemplateStore.newId
  rw [tracks.drawn]

/-! ## Saving -/

theorem save_eq (holds : store.Holds templates) (now : Int) (name description : String) (graph : Graph)
    (tags : Option (List String)) {template : Template}
    (own : (⟨(store.newId now).1, name, description, graph.nodes, graph.edges, now, now, tags⟩ :
      Template) = template) :
    store.save now name description graph tags =
      if template.fitsLevels then
        (.ok template, ⟨some (textOf (templates ++ [template])), store.drawn + idLetters⟩)
      else (.error .tooNested, ⟨store.text, store.drawn + idLetters⟩) := by
  have held : (store.newId now).2.saved now = .ok templates := holds.saved now
  have adds : (store.newId now).2.add now template =
      (store.newId now).2.write (templates ++ [template]) := by
    unfold add
    rw [held]
    rfl
  have fits : (templates ++ [template]).all (·.fitsLevels) = template.fitsLevels := by
    rw [List.all_append, holds.fits, List.all_cons, List.all_nil, Bool.true_and, Bool.and_true]
  unfold save
  dsimp only
  rw [own, adds]
  refine (orUnchanged_write _ _ template).trans ?_
  rw [fits]
  rfl

theorem tracks_save (tracks : store.Tracks ledger) (clock : (Json.int now).IsProper)
    {name description : String} {graph : Graph} {tags : Option (List String)}
    (texts : ItemsProper
      [.str name, .str description, .ofOption (fun tags => .arr (tags.map .str)) tags])
    (drawn : graph.IsDrawn) :
    (store.save now name description graph tags).1 =
        (ledger.save now name description graph tags).1 ∧
      (store.save now name description graph tags).2.Tracks
        (ledger.save now name description graph tags).2 := by
  generalize own : (⟨(store.newId now).1, name, description, graph.nodes, graph.edges, now, now, tags⟩ :
    Template) = template
  have clean : template.IsClean := by
    obtain ⟨isName, isDescription, isTags, -⟩ := texts
    obtain ⟨nodes, nodesDrawn, nodesFinite, nodesRead⟩ := drawn.nodes
    obtain ⟨edges, edgesDrawn, edgesFinite, edgesRead⟩ := drawn.edges
    subst own
    exact {
      values := ⟨isJoined_newId store now, isName, isDescription, clock, clock, isTags, trivial⟩
      nodes := nodesDrawn.forall_of_list Node.isClean_of_read nodesFinite nodesRead
      edges := edgesDrawn.forall_of_list Edge.isClean_of_read edgesFinite edgesRead }
  rw [save_eq tracks.toHolds now name description graph tags own]
  unfold Ledger.save
  rw [← tracks.newId, own]
  dsimp only
  split
  · next fits =>
      refine ⟨rfl, ⟨.inr rfl, ?_, ?_⟩, congrArg (· + idLetters) tracks.drawn⟩
      · exact List.forall_mem_append.mpr ⟨tracks.clean, List.forall_mem_singleton.mpr clean⟩
      · rw [List.all_append, tracks.fits, List.all_cons, fits]
        rfl
  · exact ⟨rfl, ⟨tracks.file, tracks.clean, tracks.fits⟩, congrArg (· + idLetters) tracks.drawn⟩

/-! ## Updating -/

theorem reviseFirst_eq (id : String) (revise : Template → Except Fault Template)
    (distinct : (templates.map (·.id)).Nodup) :
    reviseFirst id revise templates = (templates.find? (·.id == id)).map fun template =>
      (revise template).map fun revised =>
        (revised, templates.map fun old => if old.id = id then revised else old) := by
  induction templates with
  | nil => rfl
  | cons template rest ih =>
      rw [List.map_cons, List.nodup_cons] at distinct
      unfold reviseFirst
      by_cases same : template.id = id
      -- No later template has the id, so that replacing changes nothing there.
      · have others : ∀ revised, (rest.map fun old => if old.id = id then revised else old) = rest := by
          intro revised
          rw [List.map_congr_left (g := fun old => old)]
          · exact List.map_id' rest
          · intro old member
            rw [if_neg]
            rintro rfl
            exact distinct.1 (same ▸ List.mem_map_of_mem member)
        rw [if_pos same, List.find?_cons_of_pos (by simpa using same)]
        simp only [Option.map_some, List.map_cons, if_pos same, others]
      · rw [if_neg same, List.find?_cons_of_neg (by simpa using same), ih distinct.2]
        cases rest.find? (·.id == id) with
        | none => rfl
        | some found =>
            simp only [Option.map_some, List.map_cons, if_neg same]
            cases revise found <;> rfl

theorem besides_settable {updates : Fields} (only : Fields.names updates ⊆ Template.settable) :
    besides "TemplateService.update_template" ["self", "template_id"] updates = .ok updates := by
  have free : ∀ name ∈ Template.settable, ["self", "template_id"].contains name = false := by decide
  have none : updates.find? (fun field => ["self", "template_id"].contains field.1) = none := by
    refine List.find?_eq_none.mpr fun field member => ?_
    rw [free field.1 (only (List.mem_map_of_mem member))]
    exact Bool.false_ne_true
  unfold besides
  rw [none]

theorem all_replaced {id : String} {old template : Template}
    (fits : templates.all (·.fitsLevels) = true) (member : old ∈ templates) (same : old.id = id) :
    (templates.map fun other => if other.id = id then template else other).all (·.fitsLevels) =
      template.fitsLevels := by
  rw [List.all_map]
  cases own : template.fitsLevels with
  | true =>
      refine List.all_eq_true.mpr fun other isOther => ?_
      rw [Function.comp_apply]
      split
      · exact own
      · exact List.all_eq_true.mp fits other isOther
  | false =>
      refine List.all_eq_false.mpr ⟨old, member, ?_⟩
      rw [Function.comp_apply, if_pos same, own]
      exact Bool.false_ne_true

theorem update_eq (holds : store.Holds templates) (distinct : (templates.map (·.id)).Nodup) (now : Int)
    (id : String) {updates : Fields} (areUpdates : Template.AreUpdates updates) :
    store.update now id updates =
      match templates.find? (·.id == id) with
      | none => (.ok none, store)
      | some template =>
        match ofReading Template.record (template.amended updates now) with
        | .error fault => (.error fault, store)
        | .ok amended =>
          if amended.fitsLevels then
            (.ok (some amended), { store with
              text := some (textOf (templates.map fun old => if old.id = id then amended else old)) })
          else (.error .tooNested, store) := by
  unfold update
  rw [besides_settable areUpdates.settable, holds.saved now]
  simp only [bind, Except.bind, reviseFirst_eq id _ distinct]
  cases found : templates.find? (·.id == id) with
  | none => rfl
  | some template =>
      have member : template ∈ templates := List.mem_of_find?_eq_some found
      have same : template.id = id := by simpa using List.find?_some found
      simp only [Option.map_some, Template.revised_eq (holds.clean template member) areUpdates now]
      cases template.amended updates now with
      | refused issues => rfl
      | ok amended =>
          refine (orUnchanged_write store _ (some amended)).trans ?_
          rw [all_replaced holds.fits member same]
          rfl

theorem tracks_update (tracks : store.Tracks ledger) (distinct : ledger.ids.Nodup)
    (clock : (Json.int now).IsProper) (id : String) {updates : Fields}
    (areUpdates : Template.AreUpdates updates) :
    (store.update now id updates).1 = (ledger.update now id updates).1 ∧
      (store.update now id updates).2.Tracks (ledger.update now id updates).2 := by
  rw [update_eq tracks.toHolds distinct now id areUpdates]
  unfold Ledger.update
  cases found : ledger.templates.find? (·.id == id) with
  | none => exact ⟨rfl, tracks⟩
  | some template =>
      have member : template ∈ ledger.templates := List.mem_of_find?_eq_some found
      have same : template.id = id := by simpa using List.find?_some found
      dsimp only
      cases done : ofReading Template.record (template.amended updates now) with
      | error fault => exact ⟨rfl, tracks⟩
      | ok amended =>
          have isClean := Template.isClean_of_amended (tracks.clean template member) areUpdates clock
            (ofReading_eq_ok done)
          dsimp only
          split
          · next fits =>
              refine ⟨rfl, ⟨.inr rfl, ?_, (all_replaced tracks.fits member same).trans fits⟩,
                tracks.drawn⟩
              intro other isOther
              obtain ⟨source, isSource, rfl⟩ := List.mem_map.mp isOther
              split
              · exact isClean
              · exact tracks.clean source isSource
          · exact ⟨rfl, tracks⟩

/-! ## Deleting -/

theorem delete_eq (holds : store.Holds templates) (now : Int) (id : String) :
    store.delete now id =
      if templates.any (·.id == id) then
        (.ok true, { store with text := some (textOf (templates.filter (·.id ≠ id))) })
      else (.ok false, store) := by
  have every : (templates.filter (·.id ≠ id)).length = templates.length ↔
      ¬ templates.any (·.id == id) = true := by
    rw [List.length_filter_eq_length_iff, Bool.not_eq_true, List.any_eq_false]
    simp only [decide_eq_true_iff, beq_iff_eq, ne_eq]
  have fits : (templates.filter (·.id ≠ id)).all (·.fitsLevels) = true :=
    List.all_eq_true.mpr fun template member =>
      List.all_eq_true.mp holds.fits template (List.mem_of_mem_filter member)
  unfold delete
  rw [holds.saved now]
  simp only [bind, Except.bind, every]
  split
  · rfl
  · next some =>
      refine (orUnchanged_write store _ true).trans ?_
      rw [if_pos fits, if_pos (not_not.mp some)]

theorem tracks_delete (tracks : store.Tracks ledger) (now : Int) (id : String) :
    (store.delete now id).1 = (ledger.delete id).1 ∧
      (store.delete now id).2.Tracks (ledger.delete id).2 := by
  rw [delete_eq tracks.toHolds now id]
  unfold Ledger.delete
  cases found : ledger.templates.any (·.id == id) with
  | true =>
      refine ⟨rfl, ⟨.inr rfl, fun template member => ?_, ?_⟩, tracks.drawn⟩
      · exact tracks.clean template (List.mem_of_mem_filter member)
      · exact List.all_eq_true.mpr fun template member =>
          List.all_eq_true.mp tracks.fits template (List.mem_of_mem_filter member)
  | false =>
      have all : ledger.templates.filter (·.id ≠ id) = ledger.templates := by
        rw [List.any_eq_false] at found
        refine List.filter_eq_self.mpr fun template member => ?_
        simpa using found template member
      rw [all]
      exact ⟨rfl, tracks⟩

/-! ## Any number of commands -/

theorem tracks_perform (tracks : store.Tracks ledger) (distinct : ledger.ids.Nodup)
    (clock : (Json.int now).IsProper) {command : Ledger.Command} (drawn : command.IsDrawn) :
    (store.perform now command).1 = (ledger.perform now command).1 ∧
      (store.perform now command).2.Tracks (ledger.perform now command).2 := by
  cases command with
  | save name description graph tags =>
      obtain ⟨same, after⟩ := tracks_save tracks clock drawn.1 drawn.2
      exact ⟨congrArg Ledger.Answer.saved same, after⟩
  | update id updates =>
      obtain ⟨same, after⟩ := tracks_update tracks distinct clock id drawn
      exact ⟨congrArg Ledger.Answer.updated same, after⟩
  | delete id =>
      obtain ⟨same, after⟩ := tracks_delete tracks now id
      exact ⟨congrArg Ledger.Answer.deleted same, after⟩

variable {history : List Template} {calls : List (Int × Ledger.Command)}

theorem tracks_run (tracks : store.Tracks ledger)
    (ready : Ledger.Ready history (Ledger.savedIn (store.run calls).1) calls ledger)
    (drawn : ∀ call ∈ calls, (Json.int call.1).IsProper ∧ call.2.IsDrawn) :
    (store.run calls).1 = (ledger.run calls).1 ∧ (store.run calls).2.Tracks (ledger.run calls).2 := by
  induction calls generalizing store ledger history with
  | nil => exact ⟨rfl, tracks⟩
  | cons call calls ih =>
      obtain ⟨now, command⟩ := call
      obtain ⟨own, others⟩ := List.forall_mem_cons.mp drawn
      obtain ⟨same, after⟩ := tracks_perform tracks ready.distinct own.1 own.2
      have step : Ledger.savedIn (store.run ((now, command) :: calls)).1 =
          (store.perform now command).1.saved?.toList ++
            Ledger.savedIn ((store.perform now command).2.run calls).1 := Ledger.savedIn_cons _ _
      rw [step] at ready
      obtain ⟨rest, tracked⟩ := ih after (Ledger.ready_perform same ready) others
      exact ⟨congrArg₂ List.cons same rest, tracked⟩

end TemplateStore

end ChainFlow

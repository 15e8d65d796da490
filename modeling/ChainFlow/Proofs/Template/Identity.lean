import ChainFlow.Proofs.Template.Rules

/-!
# What an update keeps of a template

No update changes the id of a template. The time at which it was created, and the present time for that
of the update, are kept from the plain names of these fields only: an update that gives one of them
under its name in documents sets it (`update_keeps_identity`).
-/

namespace ChainFlow

open Schema

section

variable {updates fields : Fields} {name wire plain : String} {usual default time : Int}

/-- Whether updates leave a time as it is: they do not give it under a name, or give just this time. -/
def Fields.Spares (updates : Fields) (name : String) (time : Int) : Prop :=
  ∀ value, updates.get? name = some value → integer value = .ok time

/-- The time that updates give under a name, or else the usual one. -/
def Fields.timeAt (updates : Fields) (name : String) (usual : Int) : Reading Int :=
  integer ((updates.get? name).getD (.int usual))

theorem Fields.timeAt_eq_iff_spares : updates.timeAt name usual = .ok usual ↔ updates.Spares name usual := by
  unfold timeAt Spares
  cases updates.get? name with
  | none => exact iff_of_true rfl fun value given => nomatch given
  | some given =>
      constructor
      · rintro reads _ ⟨⟩
        exact reads
      · intro spares
        exact spares given rfl

theorem Fields.eq_iff_spares (reads : updates.timeAt name usual = .ok time) :
    time = usual ↔ updates.Spares name usual := by
  rw [← timeAt_eq_iff_spares, reads, Reading.ok.injEq]

/-- A time is read under its name in documents first; under its plain name stands the usual one. -/
theorem timeAt_of_withDefault (usually : fields.get? plain = some (.int usual))
    (reading : withDefault fields ⟨wire, plain⟩ default integer = .ok time) :
    fields.timeAt wire usual = .ok time := by
  unfold withDefault Label.found? at reading
  unfold Fields.timeAt
  dsimp only at reading
  cases given : fields.get? wire with
  | none =>
      rw [given, usually] at reading
      exact Reading.under_eq_ok_iff.mp reading
  | some value =>
      rw [given] at reading
      exact Reading.under_eq_ok_iff.mp reading

end

namespace Template

/-- What a template has from the one that some updates revised, and from these updates. -/
structure Continues (old : Template) (updates : Fields) (now : Int) (revised : Template) : Prop where
  id : revised.id = old.id
  created : updates.timeAt "createdAt" old.created = .ok revised.created
  updated : updates.timeAt "updatedAt" now = .ok revised.updated

variable {template revised : Template} {updates : Fields} {now : Int}

/-- What is left of updates once the plain names of what they must not change are taken out. -/
theorem get?_left (updates : Fields) {name : String} (id : name ≠ "id") (created : name ≠ "created_at") :
    Fields.get? ((updates.erase "id").erase "created_at") name = updates.get? name := by
  rw [Fields.get?_erase, if_neg created, Fields.get?_erase, if_neg id]

theorem continues_of_revised (distinct : (Fields.names updates).Nodup)
    (revises : TemplateStore.revised template updates now = .ok revised) :
    template.Continues updates now revised := by
  have left : (Fields.names ((updates.erase "id").erase "created_at")).Nodup :=
    (distinct.sublist (Fields.names_filter_sublist _ _)).sublist (Fields.names_filter_sublist _ _)
  have noId : Fields.get? ((updates.erase "id").erase "created_at") "id" = none := by
    rw [Fields.get?_erase, if_neg (by decide), Fields.get?_erase, if_pos rfl]
  have noCreated : Fields.get? ((updates.erase "id").erase "created_at") "created_at" = none := by
    rw [Fields.get?_erase, if_pos rfl]
  have timeAt : ∀ {name usual}, name ≠ "id" → name ≠ "created_at" → name ≠ "updated_at" →
      template.plainFields.get? name = none →
      Fields.timeAt (template.overlaid ((updates.erase "id").erase "created_at") now) name usual =
        updates.timeAt name usual := by
    intro name usual id created updated absent
    unfold Fields.timeAt
    rw [get?_overlaid left updated, absent, Option.or_none, get?_left updates id created]
  rw [revised_eq_read] at revises
  obtain ⟨_, tags, seven, -, rfl⟩ := Reading.apply_eq_ok_iff.mp (ofReading_eq_ok revises)
  obtain ⟨_, updated, six, updatedRead, rfl⟩ := Reading.apply_eq_ok_iff.mp seven
  obtain ⟨_, created, five, createdRead, rfl⟩ := Reading.apply_eq_ok_iff.mp six
  obtain ⟨_, edges, four, -, rfl⟩ := Reading.apply_eq_ok_iff.mp five
  obtain ⟨_, nodes, three, -, rfl⟩ := Reading.apply_eq_ok_iff.mp four
  obtain ⟨_, description, two, -, rfl⟩ := Reading.apply_eq_ok_iff.mp three
  obtain ⟨_, name, one, -, rfl⟩ := Reading.apply_eq_ok_iff.mp two
  obtain ⟨id, idRead, rfl⟩ := Reading.map_eq_ok_iff.mp one
  constructor
  · have own := get?_of_required idRead
    rw [get?_overlaid left (by decide), noId, Option.none_or] at own
    cases own
    rfl
  · rw [← timeAt (by decide) (by decide) (by decide) rfl]
    refine timeAt_of_withDefault ?_ createdRead
    rw [get?_overlaid left (by decide), noCreated, Option.none_or]
    rfl
  · rw [← timeAt (by decide) (by decide) (by decide) rfl]
    refine timeAt_of_withDefault ?_ updatedRead
    rw [overlaid, Fields.get?_put, if_pos rfl]

end Template

namespace TemplateStore

variable {store after : TemplateStore} {updates : Fields} {now : Int} {id : String}
  {revised : Template}

/-- An update that gives a template has revised the first one of the id. It keeps the id, and both
times unless they are given under their names in documents. -/
theorem update_keeps_identity (distinct : (Fields.names updates).Nodup)
    (updated : store.update now id updates = (.ok (some revised), after)) :
    ∃ earlier old later, store.Revises now id updates earlier old later revised after ∧
      old.Continues updates now revised ∧
      (revised.created = old.created ↔ updates.Spares "createdAt" old.created) ∧
      (revised.updated = now ↔ updates.Spares "updatedAt" now) := by
  obtain ⟨none, -⟩ | ⟨earlier, old, later, _, same, revises⟩ := update_eq_ok updated
  · cases none
  · cases same
    have continues := Template.continues_of_revised distinct revises.revised
    exact ⟨earlier, old, later, revises, continues, Fields.eq_iff_spares continues.created,
      Fields.eq_iff_spares continues.updated⟩

theorem update_keeps_identity_renamed : ∃ earlier old later revised after,
    planned.Revises 1700000000001 "template-1700000000000-abcdefghi" [("name", .str "Renamed")] earlier
        old later revised after ∧
      old.Continues [("name", .str "Renamed")] 1700000000001 revised ∧
      revised.created = old.created ∧ revised.updated = 1700000000001 := by
  have updated : planned.update 1700000000001 "template-1700000000000-abcdefghi"
      [("name", .str "Renamed")] = (.ok (some _), _) := Revises.update_eq
    { held := holds_planned.saved 1700000000001, own := rfl, apart := List.forall_mem_nil _,
      revised := rfl, written := rfl } rfl
  obtain ⟨earlier, old, later, revises, continues, created, present⟩ :=
    update_keeps_identity (by decide) updated
  have spares : ∀ name time, name ≠ "name" → Fields.Spares [("name", .str "Renamed")] name time := by
    intro name time other value given
    rw [Fields.get?_cons, if_neg other] at given
    cases given
  exact ⟨earlier, old, later, _, _, revises, continues, created.mpr (spares _ _ (by decide)),
    present.mpr (spares _ _ (by decide))⟩

/-- A time that is given under its name in documents counts as the time at which the template was
created from then on. -/
theorem update_backdates : ∃ old revised,
    planned.saved 1700000000001 = .ok [old] ∧ old.id = "template-1700000000000-abcdefghi" ∧
      (planned.update 1700000000001 old.id [("createdAt", .int 1)]).1 = .ok (some revised) ∧
      old.created = 1700000000000 ∧ revised.created = 1 := by
  have held := holds_planned.saved 1700000000001
  have updated : planned.update 1700000000001 "template-1700000000000-abcdefghi"
      [("createdAt", .int 1)] = (.ok (some _), _) := Revises.update_eq
    { held, own := rfl, apart := List.forall_mem_nil _, revised := rfl, written := rfl } rfl
  exact ⟨_, _, held, rfl, congrArg Prod.fst updated, rfl, rfl⟩

end TemplateStore

end ChainFlow

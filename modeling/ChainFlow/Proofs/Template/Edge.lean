import ChainFlow.Edge
import ChainFlow.Proofs.Schema.Scalar

/-!
# Edges in documents

An edge that was read and is written into a document reads back as the document keeps it.
-/

namespace ChainFlow.Edge

open Schema
open Json (IsProper ItemsProper)

theorem wellNamed_labels : WellNamed labels := ⟨by decide, by decide, by decide⟩

/-- What every edge is that was read. -/
structure IsRead (edge : Edge) : Prop where
  values : ItemsProper edge.values
  extras : AreLeft labels edge.extras

/-- Whether no undeclared field has the plain name of a declared one that is null. -/
def Unshadowed (edge : Edge) : Prop := Schema.Unshadowed (labels.zip edge.values) edge.extras

/-- An edge as a document keeps it. -/
def documented (edge : Edge) : Edge := { edge with extras := Schema.documented edge.extras }

variable {edge : Edge}

theorem dump_eq (isRead : edge.IsRead) :
    edge.dump .document =
      .obj (wireFields (labels.zip edge.values) ++ Schema.documented edge.extras) :=
  record_eq wellNamed_labels isRead.extras

theorem read_dump (isRead : edge.IsRead) (unshadowed : edge.Unshadowed) :
    Edge.read .document (edge.dump .document) = .ok edge.documented := by
  have wellNamed : WellNamed ((labels.zip edge.values).map (·.1)) := wellNamed_labels
  have left : AreLeft ((labels.zip edge.values).map (·.1)) edge.extras := isRead.extras
  have whole := openFields_of_whole (whole_record wellNamed left)
  have extras : Schema.extras (wireFields (labels.zip edge.values) ++ Schema.documented edge.extras)
      labels = Schema.documented edge.extras := extras_of_declared wellNamed left unshadowed
  have stands : Stands (wireFields (labels.zip edge.values) ++ Schema.documented edge.extras) labels
      edge.values := stands_of_forall fun field member =>
    Label.valueIn_of_shown (found?_of_declared wellNamed left unshadowed member)
  obtain ⟨id, source, target, sourceHandle, targetHandle, shape, animated, -⟩ := stands
  rw [dump_eq isRead]
  unfold Edge.read
  simp only [object, Reading.andThen, whole]
  rw [rereads_text.required id, rereads_text.required source, rereads_text.required target,
    rereads_text.optional sourceHandle, rereads_text.optional targetHandle,
    rereads_text.optional shape, rereads_boolean.optional animated, extras]
  rfl

/-- An edge that a document keeps as it is. -/
structure IsKept (edge : Edge) : Prop where
  extras : Schema.IsKept edge.extras
  unshadowed : edge.Unshadowed

theorem IsKept.documented_eq_self (kept : edge.IsKept) : edge.documented = edge := by
  unfold documented
  rw [Schema.documented_eq_self kept.extras]

theorem isKept_of_read_dump (isRead : edge.IsRead)
    (reading : Edge.read .document (edge.dump .document) = .ok edge) : edge.IsKept := by
  have wellNamed : WellNamed ((labels.zip edge.values).map (·.1)) := wellNamed_labels
  have left : AreLeft ((labels.zip edge.values).map (·.1)) edge.extras := isRead.extras
  rw [dump_eq isRead] at reading
  unfold Edge.read at reading
  simp only [object, Reading.andThen, openFields_of_whole (whole_record wellNamed left)] at reading
  obtain ⟨_, animated, six, -, same⟩ := Reading.apply_eq_ok_iff.mp reading
  obtain ⟨_, shape, five, -, rfl⟩ := Reading.apply_eq_ok_iff.mp six
  obtain ⟨_, targetHandle, four, -, rfl⟩ := Reading.apply_eq_ok_iff.mp five
  obtain ⟨_, sourceHandle, three, -, rfl⟩ := Reading.apply_eq_ok_iff.mp four
  obtain ⟨_, target, two, -, rfl⟩ := Reading.apply_eq_ok_iff.mp three
  obtain ⟨_, source, one, -, rfl⟩ := Reading.apply_eq_ok_iff.mp two
  obtain ⟨id, -, rfl⟩ := Reading.map_eq_ok_iff.mp one
  obtain ⟨kept, unshadowed⟩ := kept_of_extras wellNamed left (congrArg Edge.extras same)
  exact ⟨kept, unshadowed⟩

/-! ## What is written and read -/

theorem isProper_dump (isRead : edge.IsRead) : (edge.dump .document).IsProper := by
  rw [dump_eq isRead]
  refine isProper_record wellNamed_labels isRead.extras fun field member => ?_
  exact Json.itemsProper_iff.mp isRead.values field.2 (List.of_mem_zip member).2

theorem levels_value_le (edge : Edge) : ∀ value ∈ edge.values, value.levels ≤ 1 := by
  have text : ∀ text : Option String, (Json.ofString? text).levels ≤ 1 := by
    intro text
    cases text <;> exact Nat.le_refl 1
  have animated : (Json.ofOption .bool edge.animated).levels ≤ 1 := by
    cases edge.animated <;> exact Nat.le_refl 1
  simp [values, text, animated, Json.levels]

theorem levels_dump_le (isRead : edge.IsRead) (fits : edge.fitsLevels = true) :
    (edge.dump .document).levels ≤ levelLimit + 1 := by
  rw [dump_eq isRead]
  refine levels_record_le (fun field member => ?_) (levels_le_of_fitsLevels fits)
  exact (edge.levels_value_le field.2 (List.of_mem_zip member).2).trans (by decide)

/-- What every edge is that was read from a proper value. -/
theorem isRead_of_read {source : Source} {value : Json} (proper : value.IsProper)
    (reading : Edge.read source value = .ok edge) : edge.IsRead := by
  cases value with
  | obj fields =>
      unfold Edge.read at reading
      simp only [object, Reading.andThen] at reading
      split at reading
      · next result opened =>
          obtain ⟨rfl, whole⟩ := eq_of_openFields opened
          obtain ⟨_, animated, six, animatedRead, rfl⟩ := Reading.apply_eq_ok_iff.mp reading
          obtain ⟨_, shape, five, shapeRead, rfl⟩ := Reading.apply_eq_ok_iff.mp six
          obtain ⟨_, targetHandle, four, targetRead, rfl⟩ := Reading.apply_eq_ok_iff.mp five
          obtain ⟨_, sourceHandle, three, sourceRead, rfl⟩ := Reading.apply_eq_ok_iff.mp four
          obtain ⟨_, target, two, toRead, rfl⟩ := Reading.apply_eq_ok_iff.mp three
          obtain ⟨_, source, one, fromRead, rfl⟩ := Reading.apply_eq_ok_iff.mp two
          obtain ⟨id, idRead, rfl⟩ := Reading.map_eq_ok_iff.mp one
          refine ⟨?_, areLeft_extras proper whole labels⟩
          exact ⟨staysProper_text.required proper.2 idRead,
            staysProper_text.required proper.2 fromRead, staysProper_text.required proper.2 toRead,
            staysProper_text.optional proper.2 sourceRead,
            staysProper_text.optional proper.2 targetRead,
            staysProper_text.optional proper.2 shapeRead,
            staysProper_boolean.optional proper.2 animatedRead, trivial⟩
      · cases reading
  | _ => cases source <;> cases reading

end ChainFlow.Edge

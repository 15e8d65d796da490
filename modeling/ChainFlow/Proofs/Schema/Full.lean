import ChainFlow.Proofs.Schema.Record

/-!
# Records in full

A record that is written with its null fields has every declared field, under the name that the style
gives it. Where no undeclared field has one of these names, each declared value is found again and
the undeclared fields are left as they were.
-/

namespace ChainFlow.Schema

open Json (FieldsProper)

/-- Declared fields under the names that a style gives them. -/
def Style.named (style : Style) (declared : List (Label × Json)) : Fields :=
  declared.map fun field => (style.name field.1, field.2)

/-- Whether a style keeps the names of declared fields apart, also from those of undeclared ones. -/
structure Style.Separates (style : Style) (labels : List Label) (extras : Fields) : Prop where
  distinct : (labels.map style.name).Nodup
  whole : ∀ label ∈ labels, Text.hasLone (style.name label) = false
  apart : ∀ label ∈ labels, style.name label ∉ Fields.names extras

theorem Style.name_of_wire {style : Style} (wire : style.wire = true) (label : Label) :
    style.name label = label.wire := if_pos wire

theorem Style.name_same (style : Style) (name : String) : style.name (.same name) = name :=
  ite_self name

/-- The names in documents are apart from those of all fields that reading leaves. -/
theorem separates_of_wire {style : Style} (wire : style.wire = true) {labels : List Label}
    {extras : Fields} (wellNamed : WellNamed labels) (others : AreOthers labels extras) :
    style.Separates labels extras := by
  have names : style.name = Label.wire := funext (Style.name_of_wire wire)
  constructor
  all_goals rw [names]
  · exact wellNamed.wires
  · exact wellNamed.whole
  · exact others.apart

/-- Whether a style writes fields without a declared type as they are. -/
def Style.Keeps (style : Style) (fields : Fields) : Prop := style.untypedFields fields = fields

section

variable {style : Style} {fields : Fields}

theorem Style.untyped_of_exact (exact : style.exact = true) (value : Json) :
    style.untyped value = value := if_pos exact

theorem Style.untyped_of_isFinite {value : Json} (finite : value.isFinite = true) :
    style.untyped value = value := by
  rw [untyped, Json.finite_of_isFinite finite, ite_self]

theorem Style.keeps_of_forall (same : ∀ field ∈ fields, style.untyped field.2 = field.2) :
    style.Keeps fields := by
  unfold Keeps untypedFields
  rw [List.map_congr_left (g := id)]
  · exact List.map_id fields
  · intro field member
    rw [same field member]
    rfl

end

variable {style : Style} {declared : List (Label × Json)} {extras : Fields}

theorem names_named (style : Style) (declared : List (Label × Json)) :
    Fields.names (style.named declared) = (declared.map (·.1)).map style.name := by
  simp [Fields.names, Style.named, Function.comp_def]

theorem mem_named {name : String} {value : Json} :
    (name, value) ∈ style.named declared ↔
      ∃ label, (label, value) ∈ declared ∧ style.name label = name := by
  unfold Style.named
  rw [List.mem_map]
  constructor
  · rintro ⟨⟨label, own⟩, member, same⟩
    cases same
    exact ⟨label, member, rfl⟩
  · rintro ⟨label, member, rfl⟩
    exact ⟨(label, value), member, rfl⟩

theorem nodup_named (others : AreOthers (declared.map (·.1)) extras)
    (separates : style.Separates (declared.map (·.1)) extras) :
    (Fields.names (style.named declared ++ extras)).Nodup := by
  rw [Fields.names_append, List.nodup_append', names_named]
  refine ⟨separates.distinct, others.distinct, fun name own taken => ?_⟩
  obtain ⟨label, member, rfl⟩ := List.mem_map.mp own
  exact separates.apart label member taken

/-- What a style without loss writes for a record. -/
theorem record_full (full : style.thin = false) (others : AreOthers (declared.map (·.1)) extras)
    (separates : style.Separates (declared.map (·.1)) extras) (keeps : style.Keeps extras) :
    style.record declared extras = .obj (style.named declared ++ extras) := by
  have kept : ∀ fields, style.kept fields = fields := fun fields => by
    rw [Style.kept, full, if_neg Bool.false_ne_true]
  unfold Style.record
  simp only [kept]
  rw [keeps]
  exact congrArg Json.obj (Fields.merge_of_nodup (nodup_named others separates))

theorem found?_named (wellNamed : WellNamed (declared.map (·.1)))
    (others : AreOthers (declared.map (·.1)) extras)
    (separates : style.Separates (declared.map (·.1)) extras) {label : Label} {value : Json}
    (member : (label, value) ∈ declared) :
    label.found? (style.named declared ++ extras) = some (style.name label, value) := by
  have isLabel : label ∈ declared.map (·.1) := List.mem_map_of_mem (f := Prod.fst) member
  have own : (style.name label, value) ∈ style.named declared ++ extras :=
    List.mem_append_left _ (mem_named.mpr ⟨label, member, rfl⟩)
  have found := Fields.get?_of_mem (nodup_named others separates) own
  unfold Label.found?
  by_cases same : style.name label = label.wire
  · rw [← same, found]
  -- Under a plain name, no other field may have the name in documents.
  · have plain : style.wire = false := by
      cases wire : style.wire with
      | false => rfl
      | true => exact absurd (Style.name_of_wire wire label) same
    have named : ∀ label : Label, style.name label = label.plain := fun label => by
      rw [Style.name, plain, if_neg Bool.false_ne_true]
    have absent : label.wire ∉ Fields.names (style.named declared ++ extras) := by
      rw [Fields.names_append, List.mem_append, not_or, names_named]
      refine ⟨fun taken => ?_, others.apart label isLabel⟩
      obtain ⟨other, isOther, plainName⟩ := List.mem_map.mp taken
      rw [named] at plainName
      obtain rfl := wellNamed.plains other isOther label isLabel plainName
      exact same ((named other).trans plainName)
    rw [Fields.get?_eq_none.mpr absent, ← named, found]
    rfl

theorem extras_named (wellNamed : WellNamed (declared.map (·.1)))
    (others : AreOthers (declared.map (·.1)) extras)
    (separates : style.Separates (declared.map (·.1)) extras) :
    Schema.extras (style.named declared ++ extras) (declared.map (·.1)) = extras := by
  have found : ∀ {label : Label} {value : Json}, (label, value) ∈ declared →
      label.found? (style.named declared ++ extras) = some (style.name label, value) :=
    found?_named wellNamed others separates
  refine extras_append ?_ ?_
  · rintro ⟨name, value⟩ own
    obtain ⟨label, member, rfl⟩ := mem_named.mp own
    exact ⟨label, List.mem_map_of_mem (f := Prod.fst) member, value, found member⟩
  · intro field isExtra label isLabel value same
    obtain ⟨⟨label, own⟩, member, rfl⟩ := List.mem_map.mp isLabel
    rw [found member, Option.some.injEq, Prod.mk.injEq] at same
    exact separates.apart label isLabel (List.mem_map.mpr ⟨field, isExtra, same.1.symm⟩)

theorem openFields_named (others : AreOthers (declared.map (·.1)) extras)
    (separates : style.Separates (declared.map (·.1)) extras) :
    openFields (style.named declared ++ extras) = .ok (style.named declared ++ extras) := by
  refine openFields_of_whole ?_
  rintro ⟨name, value⟩ member
  rcases List.mem_append.mp member with own | other
  · obtain ⟨label, isLabel, rfl⟩ := mem_named.mp own
    exact separates.whole label (List.mem_map_of_mem (f := Prod.fst) isLabel)
  · exact others.whole _ other

theorem stands_named (wellNamed : WellNamed (declared.map (·.1)))
    (others : AreOthers (declared.map (·.1)) extras)
    (separates : style.Separates (declared.map (·.1)) extras) {labels : List Label}
    {values : List Json} (zipped : labels.zip values = declared) :
    Stands (style.named declared ++ extras) labels values := by
  refine stands_of_forall fun field member => ?_
  rw [zipped] at member
  exact Label.valueIn_of_found? (found?_named wellNamed others separates member)

end ChainFlow.Schema

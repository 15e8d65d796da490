import ChainFlow.Proofs.Json.Proper
import ChainFlow.Schema.Record

/-!
# Records that read back

A record is written with the fields that are not null, declared ones under their names in documents.
Reading it back finds every declared value, and as undeclared fields those that were written, if no
undeclared field has the plain name of a declared one that is null.
-/

namespace ChainFlow

namespace Fields

theorem mem_present {fields : Fields} {field : String × Json} :
    field ∈ present fields ↔ field ∈ fields ∧ field.2 ≠ .null := by
  obtain ⟨name, value⟩ := field
  cases value <;> simp [present]

theorem names_present_sublist (fields : Fields) :
    (names (present fields)).Sublist (names fields) := names_filter_sublist _ fields

end Fields

namespace Schema

open Json (IsProper FieldsProper)
open Text (IsJoined)

/-! ## What is written -/

/-- The undeclared fields that a document keeps, as it keeps them. -/
def documented (extras : Fields) : Fields := Style.document.untypedFields (Style.document.kept extras)

/-- The declared fields that a document has. -/
def wireFields (declared : List (Label × Json)) : Fields :=
  Fields.present (declared.map fun field => (field.1.wire, field.2))

theorem documented_nil : documented [] = [] := rfl

theorem mem_documented {extras : Fields} {field : String × Json} :
    field ∈ documented extras ↔
      ∃ value, (field.1, value) ∈ extras ∧ value ≠ .null ∧ value.finite = field.2 := by
  obtain ⟨name, value⟩ := field
  simp only [documented, Style.untypedFields, Style.kept, Style.document, Style.untyped, reduceIte,
    Bool.false_eq_true, List.mem_map, Fields.mem_present, Prod.mk.injEq]
  constructor
  · rintro ⟨⟨_, own⟩, ⟨member, some_⟩, rfl, rfl⟩
    exact ⟨own, member, some_, rfl⟩
  · rintro ⟨own, member, some_, rfl⟩
    exact ⟨(name, own), ⟨member, some_⟩, rfl, rfl⟩

theorem names_documented_sublist (extras : Fields) :
    (Fields.names (documented extras)).Sublist (Fields.names extras) := by
  have same : Fields.names (documented extras) = Fields.names (Fields.present extras) := by
    simp [documented, Style.untypedFields, Style.kept, Style.document, Fields.names]
  rw [same]
  exact Fields.names_present_sublist extras

theorem fieldsProper_documented {extras : Fields} (proper : FieldsProper extras) :
    FieldsProper (documented extras) := by
  rw [Json.fieldsProper_iff] at proper ⊢
  intro field member
  obtain ⟨value, own, -, same⟩ := mem_documented.mp member
  rw [← same]
  exact ⟨(proper _ own).1, Json.isProper_finite (proper _ own).2⟩

theorem kept_of_mem_documented {extras : Fields} (distinct : (Fields.names extras).Nodup)
    {name : String} {value : Json} (isExtra : (name, value) ∈ extras)
    (written : (name, value) ∈ documented extras) : value ≠ .null ∧ value.finite = value := by
  obtain ⟨source, member, some_, finite⟩ := mem_documented.mp written
  have first := Fields.get?_of_mem distinct isExtra
  rw [Fields.get?_of_mem distinct member, Option.some.injEq] at first
  subst first
  exact ⟨some_, finite⟩

/-- Undeclared fields all of which a document can keep. -/
structure IsKept (extras : Fields) : Prop where
  present : ∀ field ∈ extras, field.2 ≠ .null
  finite : ∀ field ∈ extras, field.2.isFinite = true

theorem documented_eq_self {extras : Fields} (kept : IsKept extras) : documented extras = extras := by
  have all : Fields.present extras = extras := by
    unfold Fields.present
    rw [List.filter_eq_self]
    intro field member
    have some_ := kept.present field member
    cases value : field.2 <;> simp_all
  simp only [documented, Style.untypedFields, Style.kept, Style.document, Style.untyped, reduceIte,
    Bool.false_eq_true, all]
  rw [List.map_congr_left (g := id)]
  · exact List.map_id extras
  · intro field member
    rw [Json.finite_of_isFinite (kept.finite field member)]
    rfl

theorem isKept_of_forall_mem {extras : Fields} (distinct : (Fields.names extras).Nodup)
    (written : ∀ field ∈ extras, field ∈ documented extras) : IsKept extras := by
  have own : ∀ field ∈ extras, field.2 ≠ .null ∧ field.2.finite = field.2 :=
    fun field isExtra => kept_of_mem_documented distinct isExtra (written field isExtra)
  exact ⟨fun field isExtra => (own field isExtra).1,
    fun field isExtra => Json.finite_eq_self_iff.mp (own field isExtra).2⟩

theorem isKept_of_documented {extras : Fields} (distinct : (Fields.names extras).Nodup)
    (same : documented extras = extras) : IsKept extras := by
  refine isKept_of_forall_mem distinct fun field isExtra => ?_
  rw [same]
  exact isExtra

theorem mem_wireFields {declared : List (Label × Json)} {name : String} {value : Json} :
    (name, value) ∈ wireFields declared ↔
      (∃ label, (label, value) ∈ declared ∧ label.wire = name) ∧ value ≠ .null := by
  unfold wireFields
  rw [Fields.mem_present, List.mem_map]
  constructor
  · rintro ⟨⟨⟨label, own⟩, member, same⟩, some_⟩
    cases same
    exact ⟨⟨label, member, rfl⟩, some_⟩
  · rintro ⟨⟨label, member, rfl⟩, some_⟩
    exact ⟨⟨(label, value), member, rfl⟩, some_⟩

/-! ## What is read back -/

/-- The field under which a declared value stands in a document. -/
def Label.shown (label : Label) : Json → Option (String × Json)
  | .null => none
  | value => some (label.wire, value)

theorem Label.shown_of_ne {label : Label} {value : Json} (some_ : value ≠ .null) :
    label.shown value = some (label.wire, value) := by
  cases value <;> first | rfl | exact absurd rfl some_

/-- The value of a declared field, and null for one that is not there. -/
def Label.valueIn (label : Label) (fields : Fields) : Json :=
  ((label.found? fields).map (·.2)).getD .null

theorem Label.valueIn_of_found? {label : Label} {fields : Fields} {name : String} {value : Json}
    (found : label.found? fields = some (name, value)) : label.valueIn fields = value := by
  rw [valueIn, found]
  rfl

theorem Label.valueIn_of_shown {label : Label} {fields : Fields} {value : Json}
    (found : label.found? fields = label.shown value) : label.valueIn fields = value := by
  rw [valueIn, found]
  cases value <;> rfl

theorem Label.exists_of_valueIn {label : Label} {fields : Fields} {value : Json}
    (some_ : value ≠ .null) (stands : label.valueIn fields = value) :
    ∃ name, label.found? fields = some (name, value) := by
  unfold valueIn at stands
  cases found : label.found? fields with
  | none =>
      rw [found] at stands
      exact absurd stands.symm some_
  | some field =>
      rw [found] at stands
      exact ⟨field.1, congrArg some (Prod.ext rfl stands)⟩

/-- Declared fields no two of which have a name in common. -/
structure WellNamed (labels : List Label) : Prop where
  wires : (labels.map (·.wire)).Nodup
  plains : ∀ first ∈ labels, ∀ second ∈ labels, first.plain = second.wire → first = second
  whole : ∀ label ∈ labels, Text.hasLone label.wire = false

/-- Undeclared fields that reading a record with some declared ones can leave, if no name is repeated
in it. -/
structure AreOthers (labels : List Label) (extras : Fields) : Prop where
  distinct : (Fields.names extras).Nodup
  apart : ∀ label ∈ labels, label.wire ∉ Fields.names extras
  whole : ∀ field ∈ extras, Text.hasLone field.1 = false

/-- Undeclared fields that reading a proper record with some declared ones can leave. -/
structure AreLeft (labels : List Label) (extras : Fields) : Prop extends AreOthers labels extras where
  proper : FieldsProper extras

theorem AreLeft.documented {labels : List Label} {extras : Fields} (left : AreLeft labels extras) :
    AreLeft labels (documented extras) where
  distinct := left.distinct.sublist (names_documented_sublist extras)
  apart label member taken := left.apart label member ((names_documented_sublist extras).subset taken)
  whole := by
    rintro ⟨name, value⟩ member
    obtain ⟨own, isExtra, -⟩ := mem_documented.mp member
    exact left.whole (name, own) isExtra
  proper := fieldsProper_documented left.proper

theorem areLeft_nil (labels : List Label) : AreLeft labels [] where
  distinct := List.nodup_nil
  apart _ _ := List.not_mem_nil
  whole _ member := nomatch member
  proper := trivial

/-- Whether an undeclared field is not taken for a declared one that is null. -/
def Unshadowed (declared : List (Label × Json)) (extras : Fields) : Prop :=
  ∀ field ∈ declared, field.2 = .null → field.1.plain ∉ Fields.names (documented extras)

/-- Fields of declared types, none of which is a floating-point number, are written as they would be
without a type. -/
theorem documented_eq_wireFields {declared : List (Label × Json)}
    (plain : ∀ field ∈ declared, field.2.finite = .null → field.2 = .null) :
    documented (declared.map fun field => (field.1.wire, field.2)) =
      wireFields (declared.map fun field => (field.1, field.2.finite)) := by
  simp only [documented, Style.untypedFields, Style.kept, Style.document, Style.untyped, reduceIte,
    Bool.false_eq_true, wireFields, Fields.present, List.filter_map, List.map_map]
  congr 1
  refine List.filter_congr fun field member => ?_
  have same := plain field member
  obtain ⟨label, value⟩ := field
  cases value with
  | float own =>
      have isFinite : own.isFinite = true := by
        by_contra other
        cases same (if_neg other)
      simp [Json.finite, isFinite]
  | _ => rfl

variable {declared : List (Label × Json)} {extras : Fields}

theorem names_wireFields_sublist (declared : List (Label × Json)) :
    (Fields.names (wireFields declared)).Sublist ((declared.map (·.1)).map (·.wire)) := by
  have all := Fields.names_present_sublist (declared.map fun field => (field.1.wire, field.2))
  simpa [wireFields, Fields.names, Function.comp_def] using all

theorem nodup_record (labels : WellNamed (declared.map (·.1)))
    (left : AreLeft (declared.map (·.1)) extras) :
    (Fields.names (wireFields declared ++ extras)).Nodup := by
  rw [Fields.names_append, List.nodup_append']
  refine ⟨labels.wires.sublist (names_wireFields_sublist declared), left.distinct, ?_⟩
  intro name own taken
  obtain ⟨label, member, rfl⟩ := List.mem_map.mp ((names_wireFields_sublist declared).subset own)
  exact left.apart label member taken

theorem record_eq (labels : WellNamed (declared.map (·.1)))
    (left : AreLeft (declared.map (·.1)) extras) :
    Style.document.record declared extras = .obj (wireFields declared ++ documented extras) :=
  congrArg Json.obj (Fields.merge_of_nodup (nodup_record labels left.documented))

theorem value_eq_of_wire (labels : WellNamed (declared.map (·.1))) {first second : Label × Json}
    (one : first ∈ declared) (other : second ∈ declared) (same : first.1.wire = second.1.wire) :
    first.2 = second.2 := by
  have distinct : (Fields.names (declared.map fun field => (field.1.wire, field.2))).Nodup := by
    simpa [Fields.names, Function.comp_def] using labels.wires
  have found : ∀ {field : Label × Json}, field ∈ declared →
      Fields.get? (declared.map fun field => (field.1.wire, field.2)) field.1.wire = some field.2 :=
    fun {field} member =>
      Fields.get?_of_mem distinct (List.mem_map.mpr ⟨field, member, rfl⟩)
  have both := found one
  rw [same, found other] at both
  exact (Option.some.inj both).symm

theorem wire_not_mem_of_null (labels : WellNamed (declared.map (·.1))) {label other : Label}
    (member : (label, .null) ∈ declared) (same : other.wire = label.wire) :
    other.wire ∉ Fields.names (wireFields declared) := by
  intro taken
  obtain ⟨⟨name, value⟩, written, wire⟩ := List.mem_map.mp taken
  obtain ⟨⟨third, own, named⟩, some_⟩ := mem_wireFields.mp written
  have wires : third.wire = label.wire := named.trans (wire.trans same)
  exact some_ (value_eq_of_wire labels own member wires)

theorem wire_not_mem_record (labels : WellNamed (declared.map (·.1)))
    (left : AreLeft (declared.map (·.1)) extras) {label : Label}
    (member : (label, .null) ∈ declared) :
    label.wire ∉ Fields.names (wireFields declared ++ documented extras) := by
  have isLabel : label ∈ declared.map (·.1) := List.mem_map_of_mem (f := Prod.fst) member
  rw [Fields.names_append, List.mem_append, not_or]
  exact ⟨wire_not_mem_of_null labels member rfl, left.documented.apart label isLabel⟩

theorem found?_of_declared (labels : WellNamed (declared.map (·.1)))
    (left : AreLeft (declared.map (·.1)) extras) (unshadowed : Unshadowed declared extras)
    {label : Label} {value : Json} (member : (label, value) ∈ declared) :
    label.found? (wireFields declared ++ documented extras) = label.shown value := by
  have isLabel : label ∈ declared.map (·.1) := List.mem_map_of_mem (f := Prod.fst) member
  unfold Label.found?
  by_cases none : value = .null
  -- A null value is not written, so neither of its names may be taken by something else.
  · subst none
    have noWire := wire_not_mem_record labels left member
    have noPlain : label.plain ∉ Fields.names (wireFields declared ++ documented extras) := by
      rw [Fields.names_append, List.mem_append, not_or]
      refine ⟨fun taken => ?_, unshadowed _ member rfl⟩
      have wire := (names_wireFields_sublist declared).subset taken
      obtain ⟨other, isOther, same⟩ := List.mem_map.mp wire
      obtain rfl := labels.plains label isLabel other isOther same.symm
      rw [← same] at taken
      exact wire_not_mem_of_null labels member rfl taken
    rw [Fields.get?_eq_none.mpr noWire, Fields.get?_eq_none.mpr noPlain]
    rfl
  · have written : (label.wire, value) ∈ wireFields declared :=
      mem_wireFields.mpr ⟨⟨label, member, rfl⟩, none⟩
    have distinct := nodup_record labels left.documented
    rw [Fields.get?_of_mem distinct (List.mem_append_left _ written), Label.shown_of_ne none]

/-- The undeclared fields of a record of which one part is found under its labels and the other is
not. -/
theorem extras_append {own others : Fields} {labels : List Label}
    (taken : ∀ field ∈ own, ∃ label ∈ labels, ∃ value,
      label.found? (own ++ others) = some (field.1, value))
    (free : ∀ field ∈ others, ∀ label ∈ labels, ∀ value,
      label.found? (own ++ others) ≠ some (field.1, value)) :
    Schema.extras (own ++ others) labels = others := by
  unfold Schema.extras
  rw [List.filter_append]
  have none : own.filter (fun field => !labels.any fun label =>
      (label.found? (own ++ others)).any fun found => found.1 == field.1) = [] := by
    rw [List.filter_eq_nil_iff]
    intro field member
    obtain ⟨label, isLabel, value, found⟩ := taken field member
    rw [Bool.not_eq_true, Bool.not_eq_false', List.any_eq_true]
    refine ⟨label, isLabel, ?_⟩
    rw [found, Option.any_some, beq_self_eq_true]
  have all : others.filter (fun field => !labels.any fun label =>
      (label.found? (own ++ others)).any fun found => found.1 == field.1) = others := by
    rw [List.filter_eq_self]
    intro field member
    rw [Bool.not_eq_true', List.any_eq_false]
    intro label isLabel
    rw [Bool.not_eq_true, Option.any_eq_false]
    rintro ⟨name, value⟩ found
    rw [beq_eq_false_iff_ne]
    rintro rfl
    exact free field member label isLabel value found
  rw [none, all, List.nil_append]

theorem extras_of_declared (labels : WellNamed (declared.map (·.1)))
    (left : AreLeft (declared.map (·.1)) extras) (unshadowed : Unshadowed declared extras) :
    Schema.extras (wireFields declared ++ documented extras) (declared.map (·.1)) =
      documented extras := by
  have found : ∀ {label : Label} {value : Json}, (label, value) ∈ declared →
      label.found? (wireFields declared ++ documented extras) = label.shown value :=
    found?_of_declared labels left unshadowed
  refine extras_append ?_ ?_
  · rintro ⟨name, value⟩ written
    obtain ⟨⟨label, member, rfl⟩, some_⟩ := mem_wireFields.mp written
    refine ⟨label, List.mem_map_of_mem (f := Prod.fst) member, value, ?_⟩
    rw [found member, Label.shown_of_ne some_]
  · intro field isExtra label isLabel value same
    obtain ⟨⟨label, own⟩, member, rfl⟩ := List.mem_map.mp isLabel
    rw [found member] at same
    by_cases isNull : own = .null
    · rw [isNull] at same
      cases same
    · rw [Label.shown_of_ne isNull, Option.some.injEq, Prod.mk.injEq] at same
      have taken : label.wire ∈ Fields.names (documented extras) :=
        List.mem_map.mpr ⟨field, isExtra, same.1.symm⟩
      exact left.documented.apart label isLabel taken

theorem kept_of_extras (labels : WellNamed (declared.map (·.1)))
    (left : AreLeft (declared.map (·.1)) extras)
    (same : Schema.extras (wireFields declared ++ documented extras) (declared.map (·.1)) = extras) :
    IsKept extras ∧ Unshadowed declared extras := by
  have written : ∀ field ∈ extras, field ∈ documented extras := by
    rintro ⟨name, value⟩ isExtra
    have found := isExtra
    rw [← same, Schema.extras, List.mem_filter] at found
    rcases List.mem_append.mp found.1 with isWire | other
    · obtain ⟨⟨label, member, rfl⟩, -⟩ := mem_wireFields.mp isWire
      have isLabel : label ∈ declared.map (·.1) := List.mem_map_of_mem (f := Prod.fst) member
      exact absurd (Fields.mem_names isExtra) (left.apart label isLabel)
    · exact other
  refine ⟨isKept_of_forall_mem left.distinct written, ?_⟩
  -- A field with the plain name of a null one would be found as that one, and not be left over.
  rintro ⟨label, value⟩ member none taken
  dsimp only at none taken
  subst none
  have noWire := wire_not_mem_record labels left member
  have isLabel : label ∈ declared.map (·.1) := List.mem_map_of_mem (f := Prod.fst) member
  obtain ⟨⟨name, value⟩, written, rfl⟩ := List.mem_map.mp taken
  have distinct := nodup_record labels left.documented
  have found : label.found? (wireFields declared ++ documented extras) = some (label.plain, value) := by
    rw [Label.found?, Fields.get?_eq_none.mpr noWire,
      Fields.get?_of_mem distinct (List.mem_append_right _ written)]
    rfl
  obtain ⟨source, isExtra, -, -⟩ := mem_documented.mp written
  rw [← same, Schema.extras, List.mem_filter, Bool.not_eq_true', List.any_eq_false] at isExtra
  have missed := isExtra.2 label isLabel
  rw [found] at missed
  simp at missed

/-! ## Fields of a type -/

section

variable {α : Type} {read : Json → Reading α} {write : α → Json} {fields : Fields} {label : Label}

/-- Whether a value of a type that is written reads back, and is not null. -/
structure Rereads (read : Json → Reading α) (write : α → Json) : Prop where
  notNull : ∀ value, write value ≠ .null
  reads : ∀ value, read (write value) = .ok value

theorem Rereads.required (rereads : Rereads read write) {value : α}
    (stands : label.valueIn fields = write value) : required fields label read = .ok value := by
  obtain ⟨name, found⟩ := Label.exists_of_valueIn (rereads.notNull value) stands
  unfold Schema.required
  rw [found]
  dsimp only
  rw [rereads.reads]
  rfl

theorem Rereads.withDefault (rereads : Rereads read write) (default : α) {value : α}
    (stands : label.valueIn fields = write value) :
    withDefault fields label default read = .ok value := by
  obtain ⟨name, found⟩ := Label.exists_of_valueIn (rereads.notNull value) stands
  unfold Schema.withDefault
  rw [found]
  dsimp only
  rw [rereads.reads]
  rfl

theorem nullable_of_ne {value : Json} (some_ : value ≠ .null) :
    nullable read value = (read value).map some := by
  cases value <;> first | rfl | exact absurd rfl some_

theorem Rereads.nullable (rereads : Rereads read write) (value : Option α) :
    nullable read (Json.ofOption write value) = .ok value := by
  cases value with
  | none => rfl
  | some value =>
      rw [Json.ofOption, nullable_of_ne (rereads.notNull value), rereads.reads]
      rfl

theorem Rereads.optional (rereads : Rereads read write) {value : Option α}
    (stands : label.valueIn fields = Json.ofOption write value) :
    optional fields label read = .ok value := by
  unfold Schema.optional Schema.withDefault
  unfold Label.valueIn at stands
  cases found : label.found? fields with
  | none =>
      rw [found] at stands
      cases value with
      | none => rfl
      | some value => exact absurd stands.symm (rereads.notNull value)
  | some field =>
      rw [found] at stands
      have same : field.2 = Json.ofOption write value := stands
      dsimp only
      rw [same, rereads.nullable value]
      rfl

/-- Whether what is read from a proper value is properly written. -/
structure StaysProper (read : Json → Reading α) (write : α → Json) : Prop where
  proper : ∀ {source : Json} {value : α}, source.IsProper → read source = .ok value →
    (write value).IsProper

theorem mem_of_found? {name : String} {value : Json} (found : label.found? fields = some (name, value)) :
    (name, value) ∈ fields := by
  unfold Label.found? at found
  split at found
  · next isFound =>
      cases found
      exact Fields.mem_of_get? isFound
  · obtain ⟨own, isFound, same⟩ := Option.map_eq_some_iff.mp found
    cases same
    exact Fields.mem_of_get? isFound

theorem isProper_of_found? (proper : FieldsProper fields) {name : String} {value : Json}
    (found : label.found? fields = some (name, value)) : value.IsProper :=
  (Json.fieldsProper_iff.mp proper _ (mem_of_found? found)).2

theorem StaysProper.withDefault (stays : StaysProper read write) (proper : FieldsProper fields)
    {default value : α} (isDefault : (write default).IsProper)
    (reading : withDefault fields label default read = .ok value) : (write value).IsProper := by
  unfold Schema.withDefault at reading
  split at reading
  · next found => exact stays.proper (isProper_of_found? proper found) (Reading.under_eq_ok_iff.mp reading)
  · cases reading
    exact isDefault

theorem name_of_found? {name : String} {value : Json} (found : label.found? fields = some (name, value)) :
    name = label.wire ∨ name = label.plain := by
  unfold Label.found? at found
  split at found
  · cases found
    exact .inl rfl
  · obtain ⟨own, -, same⟩ := Option.map_eq_some_iff.mp found
    cases same
    exact .inr rfl

theorem mem_of_required {value : α} (reading : required fields label read = .ok value) :
    ∃ field ∈ fields, (field.1 = label.wire ∨ field.1 = label.plain) ∧ read field.2 = .ok value := by
  unfold Schema.required at reading
  split at reading
  · next found =>
      exact ⟨_, mem_of_found? found, name_of_found? found, Reading.under_eq_ok_iff.mp reading⟩
  · cases reading

theorem exists_of_required (proper : FieldsProper fields) {value : α}
    (reading : required fields label read = .ok value) :
    ∃ source, source.IsProper ∧ read source = .ok value := by
  obtain ⟨field, member, -, isRead⟩ := mem_of_required reading
  exact ⟨field.2, (Json.fieldsProper_iff.mp proper field member).2, isRead⟩

theorem mem_of_optional {value : α} (reading : optional fields label read = .ok (some value)) :
    ∃ field ∈ fields, read field.2 = .ok value := by
  unfold Schema.optional Schema.withDefault at reading
  split at reading
  · next source found =>
      have isRead := Reading.under_eq_ok_iff.mp reading
      by_cases none : source = .null
      · subst none
        cases isRead
      · rw [nullable_of_ne none] at isRead
        obtain ⟨own, ownRead, same⟩ := Reading.map_eq_ok_iff.mp isRead
        cases same
        exact ⟨_, mem_of_found? found, ownRead⟩
  · cases reading

theorem StaysProper.required (stays : StaysProper read write) (proper : FieldsProper fields)
    {value : α} (reading : required fields label read = .ok value) : (write value).IsProper := by
  obtain ⟨source, isProper, isRead⟩ := exists_of_required proper reading
  exact stays.proper isProper isRead

theorem StaysProper.nullable (stays : StaysProper read write) :
    StaysProper (nullable read) (Json.ofOption write) := by
  constructor
  intro source value proper reading
  by_cases none : source = .null
  · subst none
    cases reading
    trivial
  · rw [nullable_of_ne none] at reading
    obtain ⟨own, isRead, rfl⟩ := Reading.map_eq_ok_iff.mp reading
    exact stays.proper proper isRead

theorem StaysProper.optional (stays : StaysProper read write) (proper : FieldsProper fields)
    {value : Option α} (reading : optional fields label read = .ok value) :
    (Json.ofOption write value).IsProper := by
  have isNull : (Json.ofOption write none).IsProper := trivial
  exact stays.nullable.withDefault proper isNull reading

end

theorem unshadowed_of_same (left : AreLeft (declared.map (·.1)) extras)
    (same : ∀ field ∈ declared, field.1.plain = field.1.wire) : Unshadowed declared extras := by
  intro field member _
  rw [same field member]
  exact left.documented.apart field.1 (List.mem_map_of_mem member)

/-! ## Records of a schema -/

/-- Whether values stand in fields under their labels, in order. -/
def Shown (fields : Fields) : List Label → List Json → Prop
  | label :: labels, value :: values =>
    label.found? fields = label.shown value ∧ Shown fields labels values
  | _, _ => True

theorem shown_of_forall {fields : Fields} {labels : List Label} {values : List Json}
    (found : ∀ field ∈ labels.zip values, field.1.found? fields = field.1.shown field.2) :
    Shown fields labels values := by
  induction labels generalizing values with
  | nil => trivial
  | cons label labels ih =>
      cases values with
      | nil => trivial
      | cons value values =>
          rw [List.zip_cons_cons, List.forall_mem_cons] at found
          exact ⟨found.1, ih found.2⟩

/-- Whether fields have given values under their labels, in order. -/
def Stands (fields : Fields) : List Label → List Json → Prop
  | label :: labels, value :: values => label.valueIn fields = value ∧ Stands fields labels values
  | _, _ => True

theorem stands_of_forall {fields : Fields} {labels : List Label} {values : List Json}
    (stands : ∀ field ∈ labels.zip values, field.1.valueIn fields = field.2) :
    Stands fields labels values := by
  induction labels generalizing values with
  | nil => trivial
  | cons label labels ih =>
      cases values with
      | nil => trivial
      | cons value values =>
          rw [List.zip_cons_cons, List.forall_mem_cons] at stands
          exact ⟨stands.1, ih stands.2⟩

theorem openFields_of_whole {fields : Fields}
    (whole : ∀ field ∈ fields, Text.hasLone field.1 = false) : openFields fields = .ok fields := by
  have none : fields.any (fun field => Text.hasLone field.1) = false := by
    rw [List.any_eq_false]
    exact fun field member => by simp [whole field member]
  rw [openFields, none]
  rfl

theorem eq_of_openFields {fields result : Fields} (reading : openFields fields = .ok result) :
    result = fields ∧ ∀ field ∈ fields, Text.hasLone field.1 = false := by
  unfold openFields at reading
  split at reading
  · cases reading
  · next none =>
      cases reading
      refine ⟨rfl, fun field member => ?_⟩
      rw [Bool.not_eq_true, List.any_eq_false] at none
      simpa using none field member

theorem whole_record (labels : WellNamed (declared.map (·.1)))
    (left : AreLeft (declared.map (·.1)) extras) :
    ∀ field ∈ wireFields declared ++ documented extras, Text.hasLone field.1 = false := by
  rintro ⟨name, value⟩ member
  rcases List.mem_append.mp member with own | other
  · obtain ⟨⟨label, isLabel, rfl⟩, -⟩ := mem_wireFields.mp own
    exact labels.whole label (List.mem_map_of_mem (f := Prod.fst) isLabel)
  · exact left.documented.whole _ other

theorem isProper_record (labels : WellNamed (declared.map (·.1)))
    (left : AreLeft (declared.map (·.1)) extras) (values : ∀ field ∈ declared, field.2.IsProper) :
    (Json.obj (wireFields declared ++ documented extras)).IsProper := by
  refine ⟨nodup_record labels left.documented, Json.fieldsProper_iff.mpr ?_⟩
  rintro ⟨name, value⟩ member
  refine ⟨Text.isJoined_of_hasLone (whole_record labels left _ member), ?_⟩
  rcases List.mem_append.mp member with own | other
  · obtain ⟨⟨label, isLabel, -⟩, -⟩ := mem_wireFields.mp own
    exact values _ isLabel
  · exact (Json.fieldsProper_iff.mp left.documented.proper _ other).2

theorem levelsOfFields_le_iff {fields : Fields} {most : Nat} :
    Json.levelsOfFields fields ≤ most ↔ ∀ field ∈ fields, field.2.levels ≤ most := by
  induction fields with
  | nil => simp [Json.levelsOfFields]
  | cons field fields ih => rw [Json.levelsOfFields, Nat.max_le, ih, List.forall_mem_cons]

theorem levelsOfItems_le_iff {items : List Json} {most : Nat} :
    Json.levelsOfItems items ≤ most ↔ ∀ item ∈ items, item.levels ≤ most := by
  induction items with
  | nil => simp [Json.levelsOfItems]
  | cons item items ih => rw [Json.levelsOfItems, Nat.max_le, ih, List.forall_mem_cons]

theorem levels_le_of_fitsLevels {fields : Fields} (fits : fitsLevels fields = true) :
    ∀ field ∈ fields, field.2.levels ≤ levelLimit := by
  rw [fitsLevels, List.all_eq_true] at fits
  exact fun field member => of_decide_eq_true (fits field member)

theorem levels_record_le {most : Nat} (values : ∀ field ∈ declared, field.2.levels ≤ most)
    (others : ∀ field ∈ extras, field.2.levels ≤ most) :
    (Json.obj (wireFields declared ++ documented extras)).levels ≤ most + 1 := by
  refine Nat.succ_le_succ (levelsOfFields_le_iff.mpr ?_)
  rintro ⟨name, value⟩ member
  rcases List.mem_append.mp member with own | other
  · obtain ⟨⟨label, isLabel, -⟩, -⟩ := mem_wireFields.mp own
    exact values _ isLabel
  · obtain ⟨source, isExtra, -, same⟩ := mem_documented.mp other
    dsimp only at same ⊢
    rw [← same, Json.levels_finite]
    exact others _ isExtra

theorem areOthers_extras {fields : Fields} (distinct : (Fields.names fields).Nodup)
    (whole : ∀ field ∈ fields, Text.hasLone field.1 = false) (labels : List Label) :
    AreOthers labels (Schema.extras fields labels) where
  distinct := distinct.sublist (Fields.names_filter_sublist _ fields)
  apart label isLabel taken := by
    obtain ⟨⟨name, value⟩, isExtra, rfl⟩ := List.mem_map.mp taken
    rw [Schema.extras, List.mem_filter] at isExtra
    have found : label.found? fields = some (label.wire, value) := by
      rw [Label.found?, Fields.get?_of_mem distinct isExtra.1]
    have other := isExtra.2
    rw [Bool.not_eq_true', List.any_eq_false] at other
    have missed := other label isLabel
    rw [found] at missed
    simp at missed
  whole field isExtra := whole field (List.mem_of_mem_filter isExtra)

theorem areLeft_extras {fields : Fields} (proper : (Json.obj fields).IsProper)
    (whole : ∀ field ∈ fields, Text.hasLone field.1 = false) (labels : List Label) :
    AreLeft labels (Schema.extras fields labels) where
  toAreOthers := areOthers_extras proper.1 whole labels
  proper := by
    have all := Json.fieldsProper_iff.mp proper.2
    exact Json.fieldsProper_iff.mpr fun field isExtra => all field (List.mem_of_mem_filter isExtra)

end Schema

end ChainFlow

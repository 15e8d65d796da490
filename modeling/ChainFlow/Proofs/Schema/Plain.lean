import ChainFlow.Proofs.Schema.Full

/-!
# Records under plain names

A record that is written under plain names has every declared field, but an undeclared field that has
the plain name of a declared one stands in its place. What is read from it again has no undeclared field
of such a name, so that it is the same record, be it up to undeclared nulls, only if there was none
(`isPlain_of_present`).
-/

namespace ChainFlow.Schema

/-! ## Nulls that were read -/

section

variable {α : Type} {read : Json → Reading α} {write : α → Json} {fields : Fields} {label : Label}

/-- Whether a declared value that was read from some fields is null if null stands there for it, and
only if nothing else does. -/
structure Label.Tells (label : Label) (fields : Fields) (value : Json) : Prop where
  null_of_found : ∀ name, label.found? fields = some (name, .null) → value = .null
  valueIn_eq : value = .null → label.valueIn fields = .null

theorem Rereads.tells_of_required (rereads : Rereads read write)
    (refuses : ∀ value, read .null ≠ .ok value) {value : α}
    (reading : Schema.required fields label read = .ok value) : label.Tells fields (write value) where
  null_of_found name found := by
    unfold Schema.required at reading
    rw [found] at reading
    exact absurd (Reading.under_eq_ok_iff.mp reading) (refuses value)
  valueIn_eq isNull := absurd isNull (rereads.notNull value)

theorem Rereads.tells_of_withDefault (rereads : Rereads read write)
    (refuses : ∀ value, read .null ≠ .ok value) {default value : α}
    (reading : Schema.withDefault fields label default read = .ok value) :
    label.Tells fields (write value) where
  null_of_found name found := by
    unfold Schema.withDefault at reading
    rw [found] at reading
    exact absurd (Reading.under_eq_ok_iff.mp reading) (refuses value)
  valueIn_eq isNull := absurd isNull (rereads.notNull value)

theorem Rereads.tells_of_optional (rereads : Rereads read write) {value : Option α}
    (reading : Schema.optional fields label read = .ok value) :
    label.Tells fields (Json.ofOption write value) where
  null_of_found name found := by
    unfold Schema.optional Schema.withDefault at reading
    rw [found] at reading
    cases reading
    rfl
  valueIn_eq isNull := by
    cases value with
    | some value => exact absurd isNull (rereads.notNull value)
    | none =>
        unfold Schema.optional Schema.withDefault at reading
        unfold Label.valueIn
        cases found : label.found? fields with
        | none => rfl
        | some field =>
            rw [found] at reading
            by_contra some_
            change field.2 ≠ .null at some_
            have isRead := Reading.under_eq_ok_iff.mp reading
            rw [nullable_of_ne some_] at isRead
            obtain ⟨own, -, same⟩ := Reading.map_eq_ok_iff.mp isRead
            cases same

/-- Whether values tell of the nulls in the fields that they were read from, in order. -/
def Tell (fields : Fields) : List Label → List Json → Prop
  | label :: labels, value :: values => label.Tells fields value ∧ Tell fields labels values
  | _, _ => True

theorem tells_of_mem {labels : List Label} {values : List Json} (tell : Tell fields labels values) :
    ∀ field ∈ labels.zip values, field.1.Tells fields field.2 := by
  induction labels generalizing values with
  | nil => exact fun field member => nomatch member
  | cons label labels ih =>
      cases values with
      | nil => exact fun field member => nomatch member
      | cons value values =>
          rw [List.zip_cons_cons, List.forall_mem_cons]
          exact ⟨tell.1, ih tell.2⟩

end

/-! ## Names that undeclared fields do not have -/

variable {declared : List (Label × Json)} {extras fields : Fields} {labels : List Label}

theorem not_mem_extras_of_found {label : Label} (isLabel : label ∈ labels) {name : String}
    {value : Json} (found : label.found? fields = some (name, value)) :
    name ∉ Fields.names (Schema.extras fields labels) := by
  intro taken
  obtain ⟨field, isExtra, rfl⟩ := List.mem_map.mp taken
  rw [Schema.extras, List.mem_filter, Bool.not_eq_true', List.any_eq_false] at isExtra
  have missed := isExtra.2 label isLabel
  rw [found, Option.any_some, beq_self_eq_true] at missed
  exact missed rfl

/-- Whether no undeclared field, be it null or not, has the plain name of a declared one that is null. -/
def IsApart (declared : List (Label × Json)) (extras : Fields) : Prop :=
  ∀ field ∈ declared, field.2 = .null → field.1.plain ∉ Fields.names extras

theorem IsApart.unshadowed (apart : IsApart declared extras) : Unshadowed declared extras :=
  fun field member none taken =>
    apart field member none ((names_documented_sublist extras).subset taken)

/-- Whether no declared field is given as null under a name in documents that is not its plain one. -/
def GivesNoNull (labels : List Label) (fields : Fields) : Prop :=
  ∀ label ∈ labels, fields.get? label.wire = some .null → label.plain = label.wire

theorem isApart_extras (gives : GivesNoNull (declared.map (·.1)) fields)
    (tells : ∀ field ∈ declared, field.1.Tells fields field.2) :
    IsApart declared (Schema.extras fields (declared.map (·.1))) := by
  rintro ⟨label, value⟩ member none taken
  have isLabel : label ∈ declared.map (·.1) := List.mem_map_of_mem (f := Prod.fst) member
  have stands := (tells _ member).valueIn_eq none
  have present : label.plain ∈ Fields.names fields := (Fields.names_filter_sublist _ fields).subset taken
  -- The plain name is there, so that the field is found under it, or as null under the other.
  cases wire : fields.get? label.wire with
  | none =>
      obtain ⟨plain, given⟩ : ∃ plain, fields.get? label.plain = some plain :=
        Option.ne_none_iff_exists'.mp (mt Fields.get?_eq_none.mp (not_not.mpr present))
      have found : label.found? fields = some (label.plain, plain) := by
        rw [Label.found?, wire, given]
        rfl
      exact not_mem_extras_of_found isLabel found taken
  | some given =>
      have found : label.found? fields = some (label.wire, given) := by
        rw [Label.found?, wire]
      obtain rfl : given = .null := (Label.valueIn_of_found? found).symm.trans stands
      rw [gives label isLabel wire] at taken
      exact not_mem_extras_of_found isLabel found taken

/-! ## Under plain names -/

theorem plain_untypedFields (fields : Fields) : Style.plain.untypedFields fields = fields :=
  Style.keeps_of_forall fun _ _ => Style.untyped_of_exact rfl _

/-- A record under plain names. -/
def plainRecord (declared : List (Label × Json)) (extras : Fields) : Fields :=
  Fields.merge (declared.map fun field => (field.1.plain, field.2)) extras

theorem record_plain (declared : List (Label × Json)) (extras : Fields) :
    Style.plain.record declared extras = .obj (plainRecord declared extras) := by
  unfold Style.record
  rw [plain_untypedFields]
  rfl

/-- Whether no undeclared field has the plain name of a declared one. -/
def IsPlain (labels : List Label) (extras : Fields) : Prop :=
  ∀ label ∈ labels, label.plain ∉ Fields.names extras

section

variable (wellNamed : WellNamed (declared.map (·.1))) (others : AreOthers (declared.map (·.1)) extras)

include wellNamed others

theorem wire_not_mem_plainRecord {label : Label} (isLabel : label ∈ declared.map (·.1))
    (differ : label.plain ≠ label.wire) : label.wire ∉ Fields.names (plainRecord declared extras) := by
  intro taken
  obtain ⟨field, member, same⟩ := List.mem_map.mp taken
  rcases Fields.mem_merge member with own | other
  · obtain ⟨⟨second, value⟩, isDeclared, rfl⟩ := List.mem_map.mp own
    have isSecond : second ∈ declared.map (·.1) := List.mem_map_of_mem (f := Prod.fst) isDeclared
    obtain rfl := wellNamed.plains second isSecond label isLabel same
    exact differ same
  · exact others.apart label isLabel (List.mem_map.mpr ⟨field, other, same⟩)

theorem givesNoNull_plainRecord : GivesNoNull (declared.map (·.1)) (plainRecord declared extras) := by
  intro label isLabel given
  by_contra differ
  rw [Fields.get?_eq_none.mpr (wire_not_mem_plainRecord wellNamed others isLabel differ)] at given
  cases given

theorem found?_plainRecord {label : Label} (isLabel : label ∈ declared.map (·.1)) : ∃ value,
    (plainRecord declared extras).get? label.plain = some value ∧
      label.found? (plainRecord declared extras) = some (label.plain, value) := by
  have given := Fields.get?_merge others.distinct
    (declared.map fun field => (field.1.plain, field.2)) label.plain
  obtain ⟨value, stands⟩ : ∃ value, (plainRecord declared extras).get? label.plain = some value := by
    refine Option.ne_none_iff_exists'.mp fun none => ?_
    rw [plainRecord, given, Option.or_eq_none_iff, Fields.get?_eq_none, Fields.get?_eq_none] at none
    obtain ⟨⟨own, value⟩, member, rfl⟩ := List.mem_map.mp isLabel
    exact none.2 (List.mem_map.mpr ⟨(own.plain, value), List.mem_map.mpr ⟨_, member, rfl⟩, rfl⟩)
  refine ⟨value, stands, ?_⟩
  unfold Label.found?
  by_cases same : label.plain = label.wire
  · rw [← same, stands]
  · rw [Fields.get?_eq_none.mpr (wire_not_mem_plainRecord wellNamed others isLabel same), stands]
    rfl

/-- Each declared field of a record under plain names is taken, whatever stands there for it. -/
theorem isPlain_extras_plainRecord : IsPlain (declared.map (·.1))
    (Schema.extras (plainRecord declared extras) (declared.map (·.1))) := by
  intro label isLabel
  obtain ⟨value, -, found⟩ := found?_plainRecord wellNamed others isLabel
  exact not_mem_extras_of_found isLabel found

theorem isPlain_of_present (apart : IsApart declared extras)
    (tells : ∀ field ∈ declared, field.1.Tells (plainRecord declared extras) field.2)
    (same : Fields.present (Schema.extras (plainRecord declared extras) (declared.map (·.1))) =
      Fields.present extras) : IsPlain (declared.map (·.1)) extras := by
  intro label isLabel taken
  obtain ⟨⟨name, value⟩, isExtra, named⟩ := List.mem_map.mp taken
  dsimp only at named
  subst named
  by_cases none : value = .null
  -- An undeclared null is read in place of a declared value, which was null then.
  · subst none
    obtain ⟨⟨own, value⟩, member, rfl⟩ := List.mem_map.mp isLabel
    obtain ⟨stands, given, found⟩ := found?_plainRecord wellNamed others isLabel
    rw [plainRecord, Fields.get?_merge others.distinct, Fields.get?_of_mem others.distinct isExtra,
      Option.some_or, Option.some.injEq] at given
    subst given
    exact apart _ member ((tells _ member).null_of_found _ found) taken
  · have kept : (label.plain, value) ∈ Fields.present extras :=
      Fields.mem_present.mpr ⟨isExtra, none⟩
    rw [← same] at kept
    exact isPlain_extras_plainRecord wellNamed others label isLabel
      (Fields.mem_names (Fields.mem_present.mp kept).1)

end

/-! ## In documents -/

/-- A document has no nulls of declared fields. -/
theorem givesNoNull_document (left : AreLeft (declared.map (·.1)) extras) :
    GivesNoNull (declared.map (·.1)) (wireFields declared ++ documented extras) := by
  intro label isLabel given
  rcases List.mem_append.mp (Fields.mem_of_get? given) with own | other
  · exact absurd rfl (mem_wireFields.mp own).2
  · exact absurd (Fields.mem_names other) (left.documented.apart label isLabel)

theorem fieldsFinite_documented (extras : Fields) : Json.fieldsFinite (documented extras) = true := by
  refine Json.fieldsFinite_iff.mpr fun field member => ?_
  obtain ⟨value, -, -, same⟩ := mem_documented.mp member
  rw [← same]
  exact Json.isFinite_finite value

theorem documented_eq_present (finite : Json.fieldsFinite extras = true) :
    documented extras = Fields.present extras := by
  simp only [documented, Style.untypedFields, Style.kept, Style.document, Style.untyped, reduceIte,
    Bool.false_eq_true]
  rw [List.map_congr_left (g := id)]
  · exact List.map_id _
  · intro field member
    rw [Json.finite_of_isFinite (Json.fieldsFinite_iff.mp finite field (Fields.mem_present.mp member).1)]
    rfl

end ChainFlow.Schema

import ChainFlow.Json.Writable
import Mathlib.Data.List.Nodup

/-!
# Fields with distinct names

Fields that are put together from parts without a common name stand one after the other, and each
has one value. Changes to fields stand before what they change.
-/

namespace ChainFlow.Fields

def names (fields : Fields) : List String := fields.map (·.1)

@[simp] theorem names_nil : names [] = [] := rfl

@[simp] theorem names_cons (field : String × Json) (fields : Fields) :
    names (field :: fields) = field.1 :: names fields := rfl

@[simp] theorem names_append (first second : Fields) :
    names (first ++ second) = names first ++ names second := List.map_append

theorem mem_names {fields : Fields} {name : String} {value : Json} (member : (name, value) ∈ fields) :
    name ∈ names fields := List.mem_map_of_mem (f := Prod.fst) member

theorem names_filter_sublist (keep : String × Json → Bool) (fields : Fields) :
    (names (fields.filter keep)).Sublist (names fields) := List.filter_sublist.map Prod.fst

/-! ## Putting together -/

theorem put_of_not_mem {fields : Fields} {name : String} (absent : name ∉ names fields)
    (value : Json) : put fields name value = fields ++ [(name, value)] := by
  induction fields with
  | nil => rfl
  | cons field fields ih =>
      rw [names_cons, List.mem_cons, not_or] at absent
      unfold put
      rw [if_neg (Ne.symm absent.1), ih absent.2, List.cons_append]

theorem merge_of_nodup {fields changes : Fields} (distinct : (names (fields ++ changes)).Nodup) :
    merge fields changes = fields ++ changes := by
  induction changes generalizing fields with
  | nil => exact (List.append_nil fields).symm
  | cons change changes ih =>
      have absent : change.1 ∉ names fields := by
        rw [names_append, names_cons, List.nodup_append'] at distinct
        exact fun member => distinct.2.2 member List.mem_cons_self
      have step := put_of_not_mem absent change.2
      unfold merge at ih ⊢
      rw [List.foldl_cons, step, ih (by simpa using distinct), List.append_assoc,
        List.singleton_append]

theorem ofList_of_nodup {fields : Fields} (distinct : (names fields).Nodup) :
    ofList fields = fields := merge_of_nodup distinct

/-! ## Looking up -/

theorem get?_cons (key : String) (value : Json) (fields : Fields) (name : String) :
    get? ((key, value) :: fields) name = if name = key then some value else get? fields name := by
  unfold get?
  rw [List.lookup_cons]
  by_cases same : name = key
  · rw [beq_iff_eq.mpr same, if_pos same]
  · rw [beq_eq_false_iff_ne.mpr same, if_neg same]

theorem get?_append (first second : Fields) (name : String) :
    get? (first ++ second) name = (get? first name).or (get? second name) := List.lookup_append

theorem get?_eq_none {fields : Fields} {name : String} :
    get? fields name = none ↔ name ∉ names fields := by
  unfold get? names
  rw [List.lookup_eq_none_iff]
  constructor
  · intro other member
    obtain ⟨field, isMember, rfl⟩ := List.mem_map.mp member
    simpa using other field isMember
  · intro absent field isMember
    simp only [bne_iff_ne, ne_eq]
    rintro rfl
    exact absent (List.mem_map_of_mem isMember)

theorem get?_of_mem {fields : Fields} {name : String} {value : Json}
    (distinct : (names fields).Nodup) (member : (name, value) ∈ fields) :
    get? fields name = some value := by
  induction fields with
  | nil => cases member
  | cons field fields ih =>
      rw [names_cons, List.nodup_cons] at distinct
      obtain ⟨key, own⟩ := field
      rw [get?_cons]
      rcases List.mem_cons.mp member with same | later
      · cases same
        exact if_pos rfl
      · rw [if_neg, ih distinct.2 later]
        rintro rfl
        exact distinct.1 (mem_names later)

theorem mem_of_get? {fields : Fields} {name : String} {value : Json}
    (found : get? fields name = some value) : (name, value) ∈ fields := by
  obtain ⟨before, after, rfl, -⟩ := List.lookup_eq_some_iff.mp found
  exact List.mem_append_right before List.mem_cons_self

theorem get?_put (fields : Fields) (name : String) (value : Json) (other : String) :
    get? (put fields name value) other = if other = name then some value else get? fields other := by
  induction fields with
  | nil => exact get?_cons name value [] other
  | cons field fields ih =>
      obtain ⟨key, old⟩ := field
      unfold put
      by_cases own : key = name
      · subst own
        rw [if_pos rfl, get?_cons, get?_cons]
        split <;> rfl
      · rw [if_neg own, get?_cons, get?_cons, ih]
        by_cases first : other = key
        · rw [if_pos first, if_pos first, if_neg (first ▸ own)]
        · rw [if_neg first, if_neg first]

/-- Changes without a repeated name stand before what they change. -/
theorem get?_merge {changes : Fields} (distinct : (names changes).Nodup) (fields : Fields)
    (name : String) : get? (merge fields changes) name = (get? changes name).or (get? fields name) := by
  induction changes generalizing fields with
  | nil => rfl
  | cons change changes ih =>
      obtain ⟨key, value⟩ := change
      rw [names_cons, List.nodup_cons] at distinct
      have step : get? (merge fields ((key, value) :: changes)) name =
          (get? changes name).or (get? (put fields key value) name) := ih distinct.2 _
      rw [step, get?_put, get?_cons]
      by_cases same : name = key
      · rw [if_pos same, if_pos same, get?_eq_none.mpr (same ▸ distinct.1)]
        rfl
      · rw [if_neg same, if_neg same]

theorem get?_erase (fields : Fields) (name other : String) :
    get? (erase fields name) other = if other = name then none else get? fields other := by
  induction fields with
  | nil => exact (ite_self none).symm
  | cons field fields ih =>
      obtain ⟨key, value⟩ := field
      unfold erase at ih ⊢
      by_cases same : key = name
      · rw [List.filter_cons_of_neg (by simpa using same), ih, get?_cons, same]
        split <;> rfl
      · rw [List.filter_cons_of_pos (by simpa using same), get?_cons, get?_cons, ih]
        by_cases own : other = key
        · rw [if_pos own, if_neg (own.trans_ne same), if_pos own]
        · rw [if_neg own, if_neg own]

theorem erase_of_not_mem {fields : Fields} {name : String} (absent : name ∉ names fields) :
    erase fields name = fields := by
  unfold erase
  rw [List.filter_eq_self]
  rintro ⟨key, value⟩ member
  rw [decide_eq_true_iff]
  rintro rfl
  exact absent (mem_names member)

end ChainFlow.Fields

/-! ## Everywhere in a value -/

namespace ChainFlow.Json

mutual

/-- Whether no object in a value repeats a name. -/
def IsDistinct : Json → Prop
  | .arr items => ItemsDistinct items
  | .obj fields => (Fields.names fields).Nodup ∧ FieldsDistinct fields
  | _ => True

def ItemsDistinct : List Json → Prop
  | [] => True
  | item :: rest => item.IsDistinct ∧ ItemsDistinct rest

def FieldsDistinct : List (String × Json) → Prop
  | [] => True
  | (_, value) :: rest => value.IsDistinct ∧ FieldsDistinct rest

end

theorem itemsDistinct_iff {items : List Json} :
    ItemsDistinct items ↔ ∀ item ∈ items, item.IsDistinct := by
  induction items with
  | nil => simp [ItemsDistinct]
  | cons item items ih => rw [ItemsDistinct, ih, List.forall_mem_cons]

theorem fieldsDistinct_iff {fields : Fields} :
    FieldsDistinct fields ↔ ∀ field ∈ fields, field.2.IsDistinct := by
  induction fields with
  | nil => simp [FieldsDistinct]
  | cons field fields ih => rw [FieldsDistinct, ih, List.forall_mem_cons]

theorem itemsFinite_iff {items : List Json} :
    itemsFinite items = true ↔ ∀ item ∈ items, item.isFinite = true := by
  induction items with
  | nil => simp [itemsFinite]
  | cons item items ih => rw [itemsFinite, Bool.and_eq_true, ih, List.forall_mem_cons]

theorem fieldsFinite_iff {fields : Fields} :
    fieldsFinite fields = true ↔ ∀ field ∈ fields, field.2.isFinite = true := by
  induction fields with
  | nil => simp [fieldsFinite]
  | cons field fields ih => rw [fieldsFinite, Bool.and_eq_true, ih, List.forall_mem_cons]

end ChainFlow.Json

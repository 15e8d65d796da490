import ChainFlow.Badges
import ChainFlow.Proofs.Node.Setting
import Mathlib.Data.List.Nodup

/-!
# Setting badges and estimates

Badges and estimates that are set take the place of those before: of two badges the second shows, and
of two estimates too, and it makes no difference which of a badge and an estimate is set first. Of
results with distinct ids the last one for an id is the only one.
-/

namespace ChainFlow

/-! ## Fields that are put again -/

namespace Fields

variable {fields : Fields} {name other : String}

theorem put_put (fields : Fields) (name : String) (first second : Json) :
    put (put fields name first) name second = put fields name second := by
  induction fields with
  | nil => simp [put]
  | cons field fields ih => by_cases own : field.1 = name <;> simp [put, own, ih]

/-- A field that is there already may be put before or after another. -/
theorem put_comm_of_mem (member : name ∈ names fields) (apart : name ≠ other) (value next : Json) :
    put (put fields other next) name value = put (put fields name value) other next := by
  induction fields with
  | nil => cases member
  | cons field fields ih =>
      obtain ⟨key, old⟩ := field
      by_cases own : key = name
      · simp [put, own, apart]
      · have later : name ∈ names fields := (List.mem_cons.mp member).resolve_left (Ne.symm own)
        by_cases isOther : key = other
        · simp [put, isOther, apart.symm]
        · simp [put, own, isOther, ih later]

theorem mem_names_put (fields : Fields) (name : String) (value : Json) :
    name ∈ names (put fields name value) := by
  by_contra absent
  have lost := get?_eq_none.mpr absent
  rw [get?_put, if_pos rfl] at lost
  cases lost

theorem erase_erase (fields : Fields) (name : String) :
    (fields.erase name).erase name = fields.erase name := by
  simp [erase]

theorem erase_comm (fields : Fields) (name other : String) :
    (fields.erase name).erase other = (fields.erase other).erase name := by
  unfold erase
  rw [List.filter_filter, List.filter_filter]
  exact List.filter_congr fun _ _ => Bool.and_comm _ _

end Fields

/-! ## Badges -/

theorem Badge.word_injective {first second : Badge} (same : first.word = second.word) :
    first = second := by
  have read := congrArg ofWord? same
  rw [ofWord?_word, ofWord?_word] at read
  exact Option.some.inj read

namespace Node

variable {node : Node} {badge : Badge}

/-- Whether a badge shows on a node. -/
def Shows (node : Node) (badge : Badge) : Prop := node.field? "status" = some (.str badge.word)

theorem withBadge_eq (node : Node) (badge : Badge) : node.withBadge badge =
    { node with badge := some badge, payloadOverrides := node.payloadOverrides.erase "status" } := by
  have known : node.kind.labels.any (·.plain == "status") = true := by cases node.kind <;> rfl
  rw [withBadge, set, if_pos known]
  simp [setDeclared?, exactBadge?, Badge.ofWord?_word]

theorem shows_withBadge_iff {other : Badge} : (node.withBadge badge).Shows other ↔ badge = other := by
  rw [Shows, withBadge, field?_set, if_pos rfl, Option.some.injEq, Json.str.injEq]
  exact ⟨Badge.word_injective, congrArg Badge.word⟩

/-- The second of two badges stays. -/
theorem withBadge_withBadge (node : Node) (first second : Badge) :
    (node.withBadge first).withBadge second = node.withBadge second := by
  simp only [withBadge_eq, Fields.erase_erase]

/-! ## Estimates -/

/-- A node with the estimates of a quote, be they declared for it or not. -/
def estimated (node : Node) (quote : Quote) : Node :=
  node.setAll [("estimated_cost", .str quote.cost), ("estimated_time", .int quote.seconds)]

theorem estimated_of_action {work : Work} {estimate : Estimate}
    (acts : node.role = .action work estimate) (quote : Quote) : node.estimated quote = { node with
      role := .action work ⟨some quote.cost, some quote.seconds⟩
      payloadOverrides := (node.payloadOverrides.erase "estimated_cost").erase "estimated_time" } := by
  obtain ⟨id, place, label, badge, role, own, overrides, extras⟩ := node
  cases acts
  cases work <;> rfl

theorem estimated_of_passive (passive : node.isAction = false) (quote : Quote) :
    node.estimated quote = { node with
      payloadExtras :=
        Fields.put (Fields.put node.payloadExtras "estimated_cost" (.str quote.cost))
          "estimated_time" (.int quote.seconds) } := by
  obtain ⟨id, place, label, badge, role, own, overrides, extras⟩ := node
  cases role with
  | action work estimate => cases work <;> cases passive
  | start own => rfl
  | finish own => rfl

theorem role_of_isAction (acts : node.isAction = true) :
    ∃ work estimate, node.role = .action work estimate := by
  unfold isAction kind at acts
  cases role : node.role with
  | action work estimate => exact ⟨work, estimate, rfl⟩
  | start own =>
      rw [role] at acts
      cases acts
  | finish own =>
      rw [role] at acts
      cases acts

theorem sameOutside_estimated (node : Node) (quote : Quote) :
    node.SameOutside (node.estimated quote) := node.sameOutside_setAll _

theorem sameOutside_withBadge (node : Node) (badge : Badge) :
    node.SameOutside (node.withBadge badge) := (node.set_spec _ _).1

theorem SameOutside.isAction_eq {changed : Node} (same : node.SameOutside changed) :
    changed.isAction = node.isAction := congrArg Kind.isAction same.kind

/-- The second of two estimates stays. -/
theorem estimated_estimated (node : Node) (first second : Quote) :
    (node.estimated first).estimated second = node.estimated second := by
  cases acts : node.isAction with
  | true =>
      obtain ⟨work, estimate, role⟩ := role_of_isAction acts
      rw [estimated_of_action role, estimated_of_action role, estimated_of_action rfl]
      simp only [Fields.erase_comm _ "estimated_time" "estimated_cost", Fields.erase_erase]
  | false =>
      -- The fields of the first estimates are there already, so the second are put in their places.
      have again := (node.sameOutside_estimated first).isAction_eq.trans acts
      have put := Fields.mem_names_put node.payloadExtras "estimated_cost" (.str first.cost)
      rw [estimated_of_passive again, estimated_of_passive acts, estimated_of_passive acts]
      simp only [Fields.put_comm_of_mem put (by decide : "estimated_cost" ≠ "estimated_time"),
        Fields.put_put]

theorem estimated_withBadge (node : Node) (quote : Quote) (badge : Badge) :
    (node.withBadge badge).estimated quote = (node.estimated quote).withBadge badge := by
  cases acts : node.isAction with
  | true =>
      obtain ⟨work, estimate, role⟩ := role_of_isAction acts
      have badged : (node.withBadge badge).role = .action work estimate := by rw [withBadge_eq, role]
      rw [estimated_of_action badged, estimated_of_action role, withBadge_eq, withBadge_eq]
      simp only [Fields.erase_comm _ "status"]
  | false =>
      have badged := (node.sameOutside_withBadge badge).isAction_eq.trans acts
      rw [estimated_of_passive badged, estimated_of_passive acts, withBadge_eq, withBadge_eq]

end Node

/-! ## Results for an id -/

section

variable {α : Type} {key : α → String} {items : List α} {id : String}

theorem find?_reverse_eq_some_iff (distinct : (items.map key).Nodup) {item : α} :
    items.reverse.find? (key · == id) = some item ↔ item ∈ items ∧ key item = id := by
  constructor
  · intro found
    have own := List.find?_some found
    exact ⟨List.mem_reverse.mp (List.mem_of_find?_eq_some found), eq_of_beq own⟩
  · rintro ⟨member, rfl⟩
    cases found : items.reverse.find? (key · == key item) with
    | none =>
        have other := List.find?_eq_none.mp found item (List.mem_reverse.mpr member)
        exact absurd (beq_self_eq_true (key item)) other
    | some last =>
        have own := List.find?_some found
        have among := List.mem_reverse.mp (List.mem_of_find?_eq_some found)
        rw [List.inj_on_of_nodup_map distinct among member (eq_of_beq own)]

theorem isSome_find?_reverse :
    (items.reverse.find? (key · == id)).isSome = true ↔ id ∈ items.map key := by
  simp [List.find?_isSome]

end

end ChainFlow

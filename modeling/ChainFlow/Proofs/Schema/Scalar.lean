import ChainFlow.Node.Reader
import ChainFlow.Proofs.Schema.Record

/-!
# Scalars that read back

Each type of scalar reads back from what is written for it, and what is read from a proper value is
properly written: a whole number keeps within the digits that can be read, and a floating-point
number is one of the format.
-/

namespace ChainFlow.Schema

open Json (IsProper)
open Text (IsJoined digitCount digitLimit natOfDigits)

/-! ## Texts and truth values -/

theorem rereads_text : Rereads text .str := ⟨fun _ => nofun, fun _ => rfl⟩

theorem staysProper_text : StaysProper text .str := by
  constructor
  intro source value proper reading
  cases source <;> cases reading
  exact proper

theorem rereads_boolean : Rereads boolean .bool := ⟨fun _ => nofun, fun _ => rfl⟩

theorem staysProper_boolean : StaysProper boolean .bool := ⟨fun _ _ => trivial⟩

/-! ## Whole numbers -/

theorem rereads_integer : Rereads integer .int := ⟨fun _ => nofun, fun _ => rfl⟩

theorem natAbs_signed (negative : Bool) (n : Nat) : (Decimal.signed negative n).natAbs = n := by
  cases negative <;> simp [Decimal.signed]

theorem isDigit_of_plainDigits {text : List Char} {c : Char}
    (member : c ∈ if text.head? = some '0' then ['0'] else text.takeWhile Char.isDigit) :
    c.isDigit = true := by
  split at member
  · rw [List.mem_singleton.mp member]
    rfl
  · exact List.mem_takeWhile_imp member

theorem digitCount_le_of_plainInteger {text : List Char} {value : Int}
    (reading : plainInteger text = .ok value) : digitCount value.natAbs ≤ digitLimit := by
  unfold plainInteger at reading
  split at reading
  next negative rest _ =>
    have all : ∀ c ∈ (if rest.head? = some '0' then ['0'] else rest.takeWhile Char.isDigit),
        c.isDigit = true := fun c => isDigit_of_plainDigits
    dsimp only at reading
    generalize (if rest.head? = some '0' then ['0'] else rest.takeWhile Char.isDigit) = run
      at reading all
    by_cases long : digitLimit < run.length
    · rw [if_pos long] at reading
      cases reading
    · rw [if_neg long] at reading
      split at reading
      · cases reading
      · next whole =>
          cases reading
          rw [Bool.or_eq_true, not_or, List.isEmpty_iff] at whole
          rw [natAbs_signed]
          exact (Text.digitCount_natOfDigits_le all whole.1).trans (Nat.le_of_not_lt long)

theorem digitCount_le_of_integerOfText {text : List Char} {value : Int}
    (reading : integerOfText text = .ok value) : digitCount value.natAbs ≤ digitLimit := by
  unfold integerOfText at reading
  split at reading
  · cases reading
  · split at reading
    · next plain =>
        cases reading
        exact digitCount_le_of_plainInteger plain
    · split at reading
      · cases reading
      · split at reading
        · exact digitCount_le_of_plainInteger reading
        · cases reading

theorem digitCount_le_of_lt_integerBound {n : Nat} (small : n < integerBound) :
    digitCount n ≤ digitLimit := by
  have count : digitCount n ≤ 19 := by
    refine (Text.digitCount_le_iff (by decide)).mpr (Nat.lt_trans small ?_)
    decide
  exact count.trans (by decide)

theorem staysProper_integer : StaysProper integer .int := by
  constructor
  intro source value proper reading
  cases source with
  | int own =>
      cases reading
      exact proper
  | bool own =>
      cases reading
      cases own
      · exact digitCount_le_of_lt_integerBound (by decide)
      · exact digitCount_le_of_lt_integerBound (by decide)
  | str text => exact digitCount_le_of_integerOfText reading
  | float own =>
      simp only [integer] at reading
      split at reading
      · cases reading
      · cases reading
      · split at reading
        · next small =>
            cases reading
            exact digitCount_le_of_lt_integerBound small
        · cases reading
  | null => cases reading
  | arr items => cases reading
  | obj fields => cases reading

/-! ## Floating-point numbers -/

theorem isCanonical_ofInt (n : Int) : (Binary64.ofInt n).IsCanonical := by
  unfold Binary64.ofInt
  rw [Binary64.ofRatio_eq _ _ Nat.one_pos]
  exact Binary64.isCanonical_nearest _ _

theorem isCanonical_numeral? {negative : Bool} {text : List Char} {value : Binary64}
    (reading : numeral? negative text = some value) : value.IsCanonical := by
  have canonical : ∀ coefficient exponent,
      (Binary64.ofDecimal negative coefficient exponent).IsCanonical := by
    intro coefficient exponent
    rw [Binary64.ofDecimal_eq]
    exact Binary64.isCanonical_nearest negative _
  unfold numeral? at reading
  dsimp only at reading
  split at reading
  all_goals
    split at reading
    · cases reading
    · obtain ⟨exponent, -, rfl⟩ := Option.map_eq_some_iff.mp reading
      exact canonical _ _

theorem isCanonical_float? {text : List Char} {value : Binary64} (reading : float? text = some value) :
    value.IsCanonical := by
  unfold float? at reading
  split at reading
  split at reading
  · cases reading
    exact .infinite _
  · split at reading
    · cases reading
      exact .nan
    · exact isCanonical_numeral? reading

theorem isCanonical_floatOfText {text : List Char} {value : Binary64}
    (reading : floatOfText text = .ok value) : value.IsCanonical := by
  unfold floatOfText at reading
  split at reading
  · cases reading
  · split at reading
    · next found =>
        cases reading
        rcases Option.or_eq_some_iff.mp found with trimmed | ⟨-, joined⟩
        · exact isCanonical_float? trimmed
        · obtain ⟨text, -, own⟩ := Option.bind_eq_some_iff.mp joined
          exact isCanonical_float? own
    · cases reading

theorem staysProper_float : StaysProper float .float := by
  constructor
  intro source value proper reading
  cases source with
  | float own =>
      cases reading
      exact proper
  | int own =>
      simp only [float] at reading
      split at reading
      · cases reading
      · cases reading
        exact isCanonical_ofInt own
  | bool own =>
      cases reading
      exact isCanonical_ofInt _
  | str text => exact isCanonical_floatOfText reading
  | null => cases reading
  | arr items => cases reading
  | obj fields => cases reading

/-! ## Words -/

theorem rereads_choice {α : Type} {allowed : List String} {find : String → Option α}
    {word : α → String} (found : ∀ value, find (word value) = some value) :
    Rereads (choice allowed find) (fun value => .str (word value)) := by
  refine ⟨fun _ => nofun, fun value => ?_⟩
  simp only [choice, found]

theorem staysProper_words {α : Type} {read : Json → Reading α} {word : α → String}
    (joined : ∀ value, IsJoined (word value).toList) :
    StaysProper read (fun value => .str (word value)) := ⟨fun {_ value} _ _ => joined value⟩

theorem rereads_token : Rereads Token.read (fun token => .str token.symbol) :=
  rereads_choice Token.ofSymbol?_symbol

theorem rereads_action : Rereads Action.read (fun action => .str action.word) :=
  rereads_choice Action.ofWord?_word

theorem rereads_badge : Rereads Badge.read (fun badge => .str badge.word) :=
  rereads_choice Badge.ofWord?_word

theorem isJoined_symbol (token : Token) : IsJoined token.symbol.toList := by
  cases token <;> decide

theorem isJoined_action (action : Action) : IsJoined action.word.toList := by
  cases action <;> decide

theorem isJoined_badge (badge : Badge) : IsJoined badge.word.toList := by
  cases badge <;> decide

theorem staysProper_token : StaysProper Token.read (fun token => .str token.symbol) :=
  staysProper_words isJoined_symbol

/-! ## Objects -/

theorem rereads_dictionary : Rereads dictionary .obj := ⟨fun _ => nofun, fun _ => rfl⟩

theorem staysProper_dictionary : StaysProper dictionary .obj := by
  constructor
  intro source value proper reading
  cases source <;> cases reading
  exact proper

/-! ## Lists -/

section

variable {α β : Type} {read : Json → Reading α}

theorem items_map {write : β → Json} {again : β → α} {values : List β}
    (reads : ∀ value ∈ values, read (write value) = .ok (again value)) (index : Nat) :
    Reading.items read index (values.map write) = .ok (values.map again) := by
  induction values generalizing index with
  | nil => rfl
  | cons value values ih =>
      obtain ⟨own, others⟩ := List.forall_mem_cons.mp reads
      rw [List.map_cons, Reading.items, own, ih others]
      rfl

theorem reads_of_items {write : α → Json} {values : List α} {index : Nat}
    (reading : Reading.items read index (values.map write) = .ok values) :
    ∀ value ∈ values, read (write value) = .ok value := by
  induction values generalizing index with
  | nil => exact fun value member => nomatch member
  | cons value values ih =>
      obtain ⟨_, others, first, rest, same⟩ := Reading.apply_eq_ok_iff.mp reading
      obtain ⟨own, ownRead, rfl⟩ := Reading.map_eq_ok_iff.mp first
      obtain ⟨rfl, rfl⟩ := List.cons.inj same
      rw [List.forall_mem_cons]
      exact ⟨Reading.under_eq_ok_iff.mp ownRead, ih rest⟩

theorem forall₂_of_items {write : β → Json} {values : List β} {results : List α} {index : Nat}
    (reading : Reading.items read index (values.map write) = .ok results) :
    List.Forall₂ (fun value result => read (write value) = .ok result) values results := by
  induction values generalizing index results with
  | nil =>
      cases reading
      exact .nil
  | cons value values ih =>
      obtain ⟨_, others, first, rest, rfl⟩ := Reading.apply_eq_ok_iff.mp reading
      obtain ⟨own, ownRead, rfl⟩ := Reading.map_eq_ok_iff.mp first
      exact .cons (Reading.under_eq_ok_iff.mp ownRead) (ih rest)

theorem mem_of_items {index : Nat} {sources : List Json} {values : List α}
    (reading : Reading.items read index sources = .ok values) :
    ∀ value ∈ values, ∃ source ∈ sources, read source = .ok value := by
  induction sources generalizing index values with
  | nil =>
      cases reading
      exact fun value member => nomatch member
  | cons source sources ih =>
      obtain ⟨_, others, first, rest, rfl⟩ := Reading.apply_eq_ok_iff.mp reading
      obtain ⟨value, own, rfl⟩ := Reading.map_eq_ok_iff.mp first
      rw [List.forall_mem_cons]
      refine ⟨⟨source, List.mem_cons_self, Reading.under_eq_ok_iff.mp own⟩, ?_⟩
      intro other member
      obtain ⟨source, later, isRead⟩ := ih rest other member
      exact ⟨source, List.mem_cons_of_mem _ later, isRead⟩

theorem exists_of_list {source : Json} {values : List α} (proper : source.IsProper)
    (reading : list read source = .ok values) :
    ∀ value ∈ values, ∃ item : Json, item.IsProper ∧ read item = .ok value := by
  cases source with
  | arr sources =>
      intro value member
      obtain ⟨item, isItem, isRead⟩ := mem_of_items reading value member
      exact ⟨item, Json.itemsProper_iff.mp proper item isItem, isRead⟩
  | _ => cases reading

theorem exists_of_withDefault {fields : Fields} {label : Label} {values : List α}
    (proper : Json.FieldsProper fields)
    (reading : withDefault fields label [] (list read) = .ok values) :
    ∀ value ∈ values, ∃ item : Json, item.IsProper ∧ read item = .ok value := by
  unfold withDefault at reading
  split at reading
  · next found =>
      exact exists_of_list (isProper_of_found? proper found) (Reading.under_eq_ok_iff.mp reading)
  · cases reading
    exact fun value member => nomatch member

theorem list_map {write : α → Json} {values : List α}
    (reads : ∀ value ∈ values, read (write value) = .ok value) :
    list read (.arr (values.map write)) = .ok values := by
  have all : Reading.items read 0 (values.map write) = .ok (values.map id) := items_map reads 0
  rw [List.map_id] at all
  exact all

theorem rereads_list {write : α → Json} (reads : ∀ value, read (write value) = .ok value) :
    Rereads (list read) (fun values => .arr (values.map write)) :=
  ⟨fun _ => nofun, fun _ => list_map fun value _ => reads value⟩

theorem staysProper_list {write : α → Json} (stays : StaysProper read write) :
    StaysProper (list read) (fun values => .arr (values.map write)) := by
  constructor
  intro source values proper reading
  refine Json.itemsProper_iff.mpr fun item member => ?_
  obtain ⟨value, isValue, rfl⟩ := List.mem_map.mp member
  obtain ⟨source, isProper, isRead⟩ := exists_of_list proper reading value isValue
  exact stays.proper isProper isRead

end

end ChainFlow.Schema

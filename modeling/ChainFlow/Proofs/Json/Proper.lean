import ChainFlow.Proofs.Json.Roundtrip
import Mathlib.Data.List.TakeWhile

/-!
# Values that texts denote

What a text denotes can be written again (`isProper_of_parse`): every step of a reader keeps what has
been read so far proper.
-/

namespace ChainFlow

namespace Fields

theorem names_put (fields : Fields) (name : String) (value : Json) :
    names (put fields name value) =
      if name ∈ names fields then names fields else names fields ++ [name] := by
  induction fields with
  | nil => rfl
  | cons field fields ih =>
      unfold put
      by_cases same : field.1 = name
      · rw [if_pos same, names_cons, names_cons, same, if_pos List.mem_cons_self]
      · rw [if_neg same, names_cons, names_cons, ih]
        by_cases later : name ∈ names fields
        · rw [if_pos later, if_pos (List.mem_cons_of_mem _ later)]
        · rw [if_neg later, if_neg (List.not_mem_cons_of_ne_of_not_mem (Ne.symm same) later),
            List.cons_append]

theorem nodup_put {fields : Fields} (distinct : (names fields).Nodup) (name : String)
    (value : Json) : (names (put fields name value)).Nodup := by
  rw [names_put]
  split
  · exact distinct
  · next absent => exact distinct.append (List.nodup_singleton name) (by simpa using absent)

theorem mem_put {fields : Fields} {name : String} {value : Json} {field : String × Json}
    (member : field ∈ put fields name value) : field ∈ fields ∨ field = (name, value) := by
  induction fields with
  | nil => exact .inr (List.mem_singleton.mp member)
  | cons first fields ih =>
      unfold put at member
      split at member
      · next same =>
          rcases List.mem_cons.mp member with rfl | later
          · exact .inr (by rw [same])
          · exact .inl (List.mem_cons_of_mem _ later)
      · rcases List.mem_cons.mp member with rfl | later
        · exact .inl List.mem_cons_self
        · exact (ih later).imp (List.mem_cons_of_mem _) id

theorem nodup_merge {fields : Fields} (distinct : (names fields).Nodup) (changes : Fields) :
    (names (merge fields changes)).Nodup := by
  induction changes generalizing fields with
  | nil => exact distinct
  | cons change changes ih => exact ih (nodup_put distinct change.1 change.2)

theorem mem_merge {fields changes : Fields} {field : String × Json}
    (member : field ∈ merge fields changes) : field ∈ fields ∨ field ∈ changes := by
  induction changes generalizing fields with
  | nil => exact .inl member
  | cons change changes ih =>
      rcases ih member with earlier | later
      · rcases mem_put earlier with old | rfl
        · exact .inl old
        · exact .inr List.mem_cons_self
      · exact .inr (List.mem_cons_of_mem _ later)

end Fields

namespace Json

open Text (IsJoined digitCount digitLimit natOfDigits)

theorem itemsProper_iff {items : List Json} : ItemsProper items ↔ ∀ item ∈ items, item.IsProper := by
  induction items with
  | nil => simp [ItemsProper]
  | cons item items ih => rw [ItemsProper, ih, List.forall_mem_cons]

theorem fieldsProper_iff {fields : Fields} :
    FieldsProper fields ↔ ∀ field ∈ fields, IsJoined field.1.toList ∧ field.2.IsProper := by
  induction fields with
  | nil => simp [FieldsProper]
  | cons field fields ih => rw [FieldsProper, ih, List.forall_mem_cons, and_assoc]

/-! ## Tokens -/

/-- Whether what a token stands for is proper. -/
def Token.IsProper : Token → Prop
  | .str text => IsJoined text.toList
  | .scalar value => value.IsProper
  | _ => True

theorem isDigit_of_mem_wholeDigits {text : List Char} {c : Char} (member : c ∈ wholeDigits text) :
    c.isDigit = true := by
  unfold wholeDigits at member
  split at member
  · rw [List.mem_singleton.mp member]
    rfl
  · exact List.mem_takeWhile_imp member

theorem isProper_int {whole : List Char} (all : ∀ c ∈ whole, c.isDigit = true)
    (nonempty : whole ≠ []) (short : whole.length ≤ digitLimit) (negative : Bool) :
    (Json.int (if negative then -(natOfDigits whole : Int) else natOfDigits whole)).IsProper := by
  have count := Text.digitCount_natOfDigits_le all nonempty
  have same : (if negative then -(natOfDigits whole : Int) else natOfDigits whole).natAbs =
      natOfDigits whole := by
    cases negative <;> simp
  unfold IsProper
  rw [same]
  exact count.trans short

theorem isProper_unsignedNumber {place : Nat} {negative : Bool} {text : List Char} {own : Token}
    {taken : Nat} (number : unsignedNumber place negative text = some (own, taken)) :
    own.IsProper := by
  unfold unsignedNumber at number
  dsimp only at number
  generalize (wholeDigits text).length + (if (fractionDigits _).isEmpty then 0 else _) = count
    at number
  by_cases none : (wholeDigits text).isEmpty = true
  · rw [if_pos none] at number
    cases number
  · rw [if_neg none] at number
    rw [List.isEmpty_iff] at none
    split at number
    · split at number
      · cases number
        trivial
      · next short =>
          cases number
          exact isProper_int (fun c => isDigit_of_mem_wholeDigits) none (Nat.le_of_not_lt short)
            negative
    · cases number
      unfold Token.IsProper IsProper
      rw [Binary64.ofDecimal_eq]
      exact Binary64.isCanonical_nearest negative _

theorem isProper_constants : ∀ constant ∈ constants, constant.2.IsProper := by
  have canonical := fun negative => Binary64.IsCanonical.infinite negative
  simp [constants, IsProper, canonical, Binary64.IsCanonical.nan]

theorem isProper_wordToken (place : Nat) (text : List Char) : (wordToken place text).1.IsProper := by
  unfold wordToken
  split
  · next name value found => exact isProper_constants _ (List.mem_of_find?_eq_some found)
  · split
    · split
      · next number => exact isProper_unsignedNumber number
      · trivial
    · generalize number : unsignedNumber place false text = word
      cases word with
      | none => trivial
      | some word => exact isProper_unsignedNumber number

/-- Only a string can be a token that is not proper. -/
theorem isProper_token {place : Nat} {text : List Char}
    (joined : ∀ string, (token place text).1 = .str string → IsJoined string.toList) :
    (token place text).1.IsProper := by
  unfold token
  split
  case h_8 rest =>
    simp only [token] at joined
    generalize stringBody place (rest.length + 1) (place + 1) rest = body at joined ⊢
    cases body with
    | ok piece => exact joined _ rfl
    | error misread => trivial
  case h_9 => exact isProper_wordToken place _
  all_goals trivial

/-- Whether no string of a text has the two halves of a pair side by side. -/
def StringsJoined (text : List Char) : Prop :=
  ∀ located ∈ tokens text, ∀ string, located.token = .str string → IsJoined string.toList

def Token.isJoined : Token → Bool
  | .str text => decide (IsJoined text.toList)
  | _ => true

theorem Token.isJoined_iff (token : Token) :
    token.isJoined = true ↔ ∀ string, token = .str string → IsJoined string.toList := by
  cases token <;> simp [isJoined]

instance (text : List Char) : Decidable (StringsJoined text) :=
  decidable_of_iff (∀ located ∈ tokens text, located.token.isJoined = true)
    (forall₂_congr fun located _ => located.token.isJoined_iff)

theorem isProper_tokensFrom {fuel place : Nat} {text : List Char}
    (joined : ∀ located ∈ tokensFrom fuel place text, ∀ string, located.token = .str string →
      IsJoined string.toList) :
    ∀ located ∈ tokensFrom fuel place text, located.token.IsProper := by
  induction fuel generalizing place text with
  | zero =>
      intro located member
      rw [List.mem_singleton.mp member]
      trivial
  | succ fuel ih =>
      cases text with
      | nil =>
          intro located member
          rw [List.mem_singleton.mp member]
          trivial
      | cons c rest =>
          simp only [tokensFrom] at joined ⊢
          by_cases space : isSpace c = true
          · simp only [space, reduceIte] at joined ⊢
            exact ih joined
          · simp only [space, Bool.false_eq_true, reduceIte, List.forall_mem_cons] at joined ⊢
            exact ⟨isProper_token joined.1, ih joined.2⟩

/-! ## Steps of a reader -/

def Frame.IsProper : Frame → Prop
  | .arr items => ItemsProper items
  | .obj fields name => FieldsProper fields ∧ IsJoined name.toList

def Expecting.IsProper : Expecting → Prop
  | .name fields => FieldsProper fields
  | .colon fields key => FieldsProper fields ∧ IsJoined key.toList
  | .after done => done.IsProper
  | _ => True

theorem itemsProper_reverse {items : List Json} (proper : ItemsProper items) :
    ItemsProper items.reverse := by
  rw [itemsProper_iff] at proper ⊢
  exact fun item member => proper item (List.mem_reverse.mp member)

theorem isProper_ofList {fields : Fields} (proper : FieldsProper fields) :
    (Json.obj (Fields.ofList fields)).IsProper := by
  rw [fieldsProper_iff] at proper
  have distinct : (Fields.names []).Nodup := List.nodup_nil
  refine ⟨Fields.nodup_merge distinct fields, fieldsProper_iff.mpr fun field member => ?_⟩
  rcases Fields.mem_merge member with none | own
  · cases none
  · exact proper field own

theorem fieldsProper_reverse {fields : Fields} (proper : FieldsProper fields) :
    FieldsProper fields.reverse := by
  rw [fieldsProper_iff] at proper ⊢
  exact fun field member => proper field (List.mem_reverse.mp member)

/-- Whether what a reader has come to is proper. -/
def AreProper (state : Expecting × List Frame) : Prop :=
  state.1.IsProper ∧ ∀ frame ∈ state.2, frame.IsProper

theorem areProper_beginValue {located : Located} {stack : List Frame}
    {next : Expecting × List Frame} (own : located.token.IsProper)
    (proper : ∀ frame ∈ stack, frame.IsProper) (step : beginValue located stack = .ok next) :
    AreProper next := by
  unfold beginValue at step
  dsimp only at step
  split at step
  · next value word =>
      cases step
      rw [word] at own
      exact ⟨own, proper⟩
  · next text word =>
      cases step
      rw [word] at own
      exact ⟨own, proper⟩
  · split at step
    · cases step
    · cases step
      exact ⟨trivial, List.forall_mem_cons.mpr ⟨trivial, proper⟩⟩
  · split at step
    · cases step
    · cases step
      exact ⟨trivial, proper⟩
  · cases step

theorem areProper_beginName {located : Located} {fields : Fields} {stack : List Frame}
    {next : Expecting × List Frame} (own : located.token.IsProper) (read : FieldsProper fields)
    (proper : ∀ frame ∈ stack, frame.IsProper) (step : beginName located fields stack = .ok next) :
    AreProper next := by
  unfold beginName at step
  split at step
  · next name word =>
      cases step
      rw [word] at own
      exact ⟨⟨read, own⟩, proper⟩
  · cases step
  · cases step
  · cases step

theorem areProper_afterValue {located : Located} {value : Json} {stack : List Frame}
    {next : Expecting × List Frame} (read : value.IsProper)
    (proper : ∀ frame ∈ stack, frame.IsProper) (step : afterValue located value stack = .ok next) :
    AreProper next := by
  unfold afterValue at step
  split at step
  · cases step
  · next items stack =>
      obtain ⟨done, others⟩ := List.forall_mem_cons.mp proper
      have more : ItemsProper (value :: items) := ⟨read, done⟩
      split at step
      · cases step
        exact ⟨trivial, List.forall_mem_cons.mpr ⟨more, others⟩⟩
      · cases step
        exact ⟨itemsProper_reverse more, others⟩
      · cases step
  · next fields name stack =>
      obtain ⟨⟨done, joined⟩, others⟩ := List.forall_mem_cons.mp proper
      have more : FieldsProper ((name, value) :: fields) := ⟨joined, read, done⟩
      split at step
      · cases step
        exact ⟨more, others⟩
      · cases step
        exact ⟨isProper_ofList (fieldsProper_reverse more), others⟩
      · cases step

theorem areProper_advance {located : Located} {expecting : Expecting} {stack : List Frame}
    {next : Expecting × List Frame} (own : located.token.IsProper)
    (proper : AreProper (expecting, stack)) (step : advance located expecting stack = .ok next) :
    AreProper next := by
  obtain ⟨read, others⟩ := proper
  cases expecting with
  | value => exact areProper_beginValue own others step
  | valueOrClose =>
      simp only [advance] at step
      split at step
      · next items stack _ =>
          cases step
          obtain ⟨done, others⟩ := List.forall_mem_cons.mp others
          exact ⟨itemsProper_reverse done, others⟩
      · exact areProper_beginValue own others step
  | nameOrClose =>
      simp only [advance] at step
      split at step
      · cases step
        exact ⟨⟨List.nodup_nil, trivial⟩, others⟩
      · have none : FieldsProper [] := trivial
        exact areProper_beginName own none others step
  | name fields => exact areProper_beginName own read others step
  | colon fields name =>
      simp only [advance] at step
      split at step
      · cases step
        exact ⟨trivial, List.forall_mem_cons.mpr ⟨read, others⟩⟩
      · cases step
  | after value => exact areProper_afterValue read others step

theorem isProper_readTokens {located : List Located} {expecting : Expecting} {stack : List Frame}
    {value : Json} (own : ∀ one ∈ located, one.token.IsProper)
    (proper : AreProper (expecting, stack)) (read : readTokens located expecting stack = .ok value) :
    value.IsProper := by
  induction located generalizing expecting stack with
  | nil => cases read
  | cons first more ih =>
      obtain ⟨head, tail⟩ := List.forall_mem_cons.mp own
      unfold readTokens at read
      split at read
      · cases read
        exact proper.1
      · split at read
        · next moved => exact ih tail (areProper_advance head proper moved) read
        · cases read

/-- What a text denotes is proper. -/
theorem isProper_of_parse {text : List Char} {value : Json} (joined : StringsJoined text)
    (read : parse text = .ok value) : value.IsProper := by
  have start : AreProper (.value, []) := ⟨trivial, by simp⟩
  unfold parse at read
  split at read
  · cases read
  · exact isProper_readTokens (isProper_tokensFrom joined) start read

/-! ## Without numbers that are not finite -/

theorem names_finiteFields (fields : Fields) :
    Fields.names (finiteFields fields) = Fields.names fields := by
  induction fields with
  | nil => rfl
  | cons field fields ih => rw [finiteFields, Fields.names_cons, Fields.names_cons, ih]

mutual

theorem isProper_finite : ∀ {value : Json}, value.IsProper → value.finite.IsProper
  | .null, proper | .bool _, proper | .int _, proper | .str _, proper => proper
  | .float value, proper => by
    unfold finite
    split
    · exact proper
    · trivial
  | .arr items, proper => itemsProper_finiteItems proper
  | .obj fields, proper => by
    refine ⟨?_, fieldsProper_finiteFields proper.2⟩
    rw [names_finiteFields]
    exact proper.1

theorem itemsProper_finiteItems : ∀ {items : List Json}, ItemsProper items →
    ItemsProper (finiteItems items)
  | [], _ => trivial
  | _ :: _, proper => ⟨isProper_finite proper.1, itemsProper_finiteItems proper.2⟩

theorem fieldsProper_finiteFields : ∀ {fields : List (String × Json)}, FieldsProper fields →
    FieldsProper (finiteFields fields)
  | [], _ => trivial
  | (_, _) :: _, ⟨joined, proper, others⟩ =>
    ⟨joined, isProper_finite proper, fieldsProper_finiteFields others⟩

end

mutual

theorem levels_finite : ∀ value : Json, value.finite.levels = value.levels
  | .null | .bool _ | .int _ | .str _ => rfl
  | .float value => by
    unfold finite
    split <;> rfl
  | .arr items => congrArg Nat.succ (levelsOfItems_finiteItems items)
  | .obj fields => congrArg Nat.succ (levelsOfFields_finiteFields fields)

theorem levelsOfItems_finiteItems : ∀ items : List Json,
    levelsOfItems (finiteItems items) = levelsOfItems items
  | [] => rfl
  | item :: rest => by
    simp only [finiteItems, levelsOfItems, levels_finite item, levelsOfItems_finiteItems rest]

theorem levelsOfFields_finiteFields : ∀ fields : List (String × Json),
    levelsOfFields (finiteFields fields) = levelsOfFields fields
  | [] => rfl
  | (_, value) :: rest => by
    simp only [finiteFields, levelsOfFields, levels_finite value, levelsOfFields_finiteFields rest]

end

mutual

theorem finite_of_isFinite : ∀ {value : Json}, value.isFinite = true → value.finite = value
  | .null, _ | .bool _, _ | .int _, _ | .str _, _ => rfl
  | .float _, isFinite => if_pos isFinite
  | .arr _, isFinite => congrArg Json.arr (finiteItems_of_isFinite isFinite)
  | .obj _, isFinite => congrArg Json.obj (finiteFields_of_isFinite isFinite)

theorem finiteItems_of_isFinite : ∀ {items : List Json}, itemsFinite items = true →
    finiteItems items = items
  | [], _ => rfl
  | item :: rest, isFinite => by
    rw [itemsFinite, Bool.and_eq_true] at isFinite
    rw [finiteItems, finite_of_isFinite isFinite.1, finiteItems_of_isFinite isFinite.2]

theorem finiteFields_of_isFinite : ∀ {fields : List (String × Json)}, fieldsFinite fields = true →
    finiteFields fields = fields
  | [], _ => rfl
  | (name, value) :: rest, isFinite => by
    rw [fieldsFinite, Bool.and_eq_true] at isFinite
    rw [finiteFields, finite_of_isFinite isFinite.1, finiteFields_of_isFinite isFinite.2]

end

theorem finite_eq_self_iff {value : Json} : value.finite = value ↔ value.isFinite = true :=
  ⟨fun same => by rw [← same]; exact isFinite_finite value, finite_of_isFinite⟩

end Json

end ChainFlow

import ChainFlow.Json.Reader
import ChainFlow.Proofs.Json.Fields
import ChainFlow.Proofs.Json.Number
import ChainFlow.Proofs.Json.Strings

/-!
# Values that read back

The text in which a value has one item a line denotes the value (`parse_indented`). A reader is
followed through the text from state to state: what lies before it, what it expects, and the
containers that are open.
-/

namespace ChainFlow.Json

open Text (IsJoined digitCount digitLimit)

mutual

/-- Whether a value is one that a text can denote: the names in an object are distinct, a whole number
is not too long, and no text has the two halves of a pair side by side. -/
def IsProper : Json → Prop
  | .int value => digitCount value.natAbs ≤ digitLimit
  | .float value => value.IsCanonical
  | .str text => IsJoined text.toList
  | .arr items => ItemsProper items
  | .obj fields => (Fields.names fields).Nodup ∧ FieldsProper fields
  | _ => True

def ItemsProper : List Json → Prop
  | [] => True
  | item :: rest => IsProper item ∧ ItemsProper rest

def FieldsProper : List (String × Json) → Prop
  | [] => True
  | (name, value) :: rest => IsJoined name.toList ∧ IsProper value ∧ FieldsProper rest

end

/-! ## States of a reader -/

structure State where
  text : List Char
  expecting : Expecting
  stack : List Frame

/-- Whether a reader in one state comes to another, however many characters have been read. -/
def State.Leads (first second : State) : Prop :=
  ∀ fuel place, first.text.length < fuel → ∃ fuel' place', second.text.length < fuel' ∧
    readTokens (tokensFrom fuel place first.text) first.expecting first.stack =
      readTokens (tokensFrom fuel' place' second.text) second.expecting second.stack

namespace State.Leads

theorem refl (state : State) : state.Leads state := fun fuel place enough =>
  ⟨fuel, place, enough, rfl⟩

theorem trans {first second third : State} (one : first.Leads second) (two : second.Leads third) :
    first.Leads third := by
  intro fuel place enough
  obtain ⟨fuel', place', enough', same⟩ := one fuel place enough
  obtain ⟨fuel'', place'', enough'', same'⟩ := two fuel' place' enough'
  exact ⟨fuel'', place'', enough'', same.trans same'⟩

end State.Leads

variable {expecting expecting' : Expecting} {stack stack' : List Frame} {rest : List Char}

theorem leads_space {c : Char} (space : isSpace c = true) :
    State.Leads ⟨c :: rest, expecting, stack⟩ ⟨rest, expecting, stack⟩ := by
  intro fuel place enough
  obtain ⟨fuel, rfl⟩ := Nat.exists_eq_succ_of_ne_zero (Nat.ne_of_gt (Nat.zero_lt_of_lt enough))
  refine ⟨fuel, place + 1, Nat.lt_of_succ_lt_succ enough, ?_⟩
  simp only [tokensFrom, space, reduceIte]

theorem leads_newLine (depth : Nat) :
    State.Leads ⟨newLine depth ++ rest, expecting, stack⟩ ⟨rest, expecting, stack⟩ := by
  have blanks : ∀ count, State.Leads ⟨List.replicate count ' ' ++ rest, expecting, stack⟩
      ⟨rest, expecting, stack⟩ := by
    intro count
    induction count with
    | zero => exact .refl _
    | succ count ih => exact (leads_space rfl).trans ih
  exact (leads_space rfl).trans (blanks (2 * depth))

theorem readTokens_of_advance {located : Located} {more : List Located}
    (other : located.token ≠ .finish)
    (moves : advance located expecting stack = .ok (expecting', stack')) :
    readTokens (located :: more) expecting stack = readTokens more expecting' stack' := by
  conv_lhs => unfold readTokens
  split
  · next finish => exact absurd finish other
  · rw [moves]

theorem leads_token (text : List Char) {own : Token}
    (starts : ∃ c tail, text = c :: tail ∧ isSpace c = false)
    (other : own ≠ .finish)
    (cut : ∀ place, token place (text ++ rest) = (own, text.length))
    (moves : ∀ place, advance ⟨place, own⟩ expecting stack = .ok (expecting', stack')) :
    State.Leads ⟨text ++ rest, expecting, stack⟩ ⟨rest, expecting', stack'⟩ := by
  intro fuel place enough
  obtain ⟨fuel, rfl⟩ := Nat.exists_eq_succ_of_ne_zero (Nat.ne_of_gt (Nat.zero_lt_of_lt enough))
  obtain ⟨c, tail, rfl, visible⟩ := starts
  have first : tokensFrom (fuel + 1) place (c :: tail ++ rest) =
      ⟨place, own⟩ :: tokensFrom fuel (place + (c :: tail).length) rest := by
    have own := cut place
    rw [List.cons_append] at own ⊢
    simp only [tokensFrom, visible, Bool.false_eq_true, reduceIte, own]
    rw [← List.cons_append, List.drop_left]
  refine ⟨fuel, place + (c :: tail).length, ?_, ?_⟩
  · simp only [List.length_append, List.length_cons] at enough ⊢
    omega
  · dsimp only
    rw [first]
    exact readTokens_of_advance other (moves place)

theorem readTokens_mark (rest : List Char) :
    readTokens (tokens ('\uFEFF' :: rest)) .value [] = .error ⟨.value, 0⟩ := rfl

theorem parse_of_leads {text : List Char} {value : Json}
    (leads : State.Leads ⟨text, .value, []⟩ ⟨[], .after value, []⟩) : parse text = .ok value := by
  obtain ⟨fuel, place, enough, same⟩ := leads (text.length + 1) 0 (Nat.lt_succ_self _)
  obtain ⟨fuel, rfl⟩ := Nat.exists_eq_succ_of_ne_zero (Nat.ne_of_gt (Nat.zero_lt_of_lt enough))
  have read : readTokens (tokens text) .value [] = .ok value := same
  unfold parse
  split
  · next rest =>
      rw [readTokens_mark] at read
      cases read
  · exact read

/-! ## Scalars and containers -/

/-- Whether a reader takes what comes for the beginning of a value, unless it closes an array. -/
def BeginsValue (expecting : Expecting) (stack : List Frame) : Prop :=
  ∀ located, located.token ≠ .closeArray →
    advance located expecting stack = beginValue located stack

theorem beginsValue (stack : List Frame) : BeginsValue .value stack := fun _ _ => rfl

theorem beginsValue_first (items : List Json) (stack : List Frame) :
    BeginsValue .valueOrClose (.arr items :: stack) := by
  intro located other
  simp only [advance]
  split
  · next close _ => exact absurd close other
  · rfl

/-- Whether a reader takes what comes for a name beside those of some fields, unless it closes an
object. -/
def BeginsName (expecting : Expecting) (fields : Fields) (stack : List Frame) : Prop :=
  ∀ located, located.token ≠ .closeObject →
    advance located expecting stack = beginName located fields stack

theorem beginsName (fields : Fields) (stack : List Frame) : BeginsName (.name fields) fields stack :=
  fun _ _ => rfl

theorem beginsName_first (stack : List Frame) : BeginsName .nameOrClose [] stack := by
  intro located other
  simp only [advance]

theorem leads_scalar {text : List Char} {value : Json}
    (starts : ∃ c tail, text = c :: tail ∧ isSpace c = false)
    (cut : ∀ place, token place (text ++ rest) = (.scalar value, text.length))
    (begins : BeginsValue expecting stack) :
    State.Leads ⟨text ++ rest, expecting, stack⟩ ⟨rest, .after value, stack⟩ := by
  refine leads_token text starts (by simp) cut fun place => ?_
  rw [begins _ (by simp)]
  rfl

theorem leads_string {text : String} (joined : IsJoined text.toList)
    (begins : BeginsValue expecting stack) :
    State.Leads ⟨stringText .ascii text ++ rest, expecting, stack⟩
      ⟨rest, .after (.str text), stack⟩ := by
  refine leads_token _ ⟨'"', _, rfl, rfl⟩ (by simp) (fun place => token_string place joined rest)
    fun place => ?_
  rw [begins _ (by simp)]
  rfl

theorem leads_name {name : String} {fields : Fields} (joined : IsJoined name.toList)
    (begins : BeginsName expecting fields stack) :
    State.Leads ⟨stringText .ascii name ++ ':' :: ' ' :: rest, expecting, stack⟩
      ⟨rest, .value, .obj fields name :: stack⟩ := by
  have named : State.Leads ⟨stringText .ascii name ++ ':' :: ' ' :: rest, expecting, stack⟩
      ⟨':' :: ' ' :: rest, .colon fields name, stack⟩ := by
    refine leads_token _ ⟨'"', _, rfl, rfl⟩ (by simp) (fun place => token_string place joined _)
      fun place => ?_
    rw [begins _ (by simp)]
    rfl
  have colon : State.Leads ⟨':' :: ' ' :: rest, .colon fields name, stack⟩
      ⟨' ' :: rest, .value, .obj fields name :: stack⟩ :=
    leads_token [':'] ⟨':', [], rfl, rfl⟩ (by simp) (fun _ => rfl) fun _ => rfl
  exact named.trans (colon.trans (leads_space rfl))

theorem leads_openArray (begins : BeginsValue expecting stack) (deep : stack.length < depthLimit) :
    State.Leads ⟨'[' :: rest, expecting, stack⟩ ⟨rest, .valueOrClose, .arr [] :: stack⟩ := by
  refine leads_token ['['] ⟨'[', [], rfl, rfl⟩ (by simp) (fun _ => rfl) fun place => ?_
  rw [begins _ (by simp)]
  exact if_neg (Nat.not_le.mpr deep)

theorem leads_openObject (begins : BeginsValue expecting stack) (deep : stack.length < depthLimit) :
    State.Leads ⟨'{' :: rest, expecting, stack⟩ ⟨rest, .nameOrClose, stack⟩ := by
  refine leads_token ['{'] ⟨'{', [], rfl, rfl⟩ (by simp) (fun _ => rfl) fun place => ?_
  rw [begins _ (by simp)]
  exact if_neg (Nat.not_le.mpr deep)

theorem leads_emptyArray (stack : List Frame) (rest : List Char) :
    State.Leads ⟨']' :: rest, .valueOrClose, .arr [] :: stack⟩ ⟨rest, .after (.arr []), stack⟩ :=
  leads_token [']'] ⟨']', [], rfl, rfl⟩ (by simp) (fun _ => rfl) fun _ => rfl

theorem leads_emptyObject (stack : List Frame) (rest : List Char) :
    State.Leads ⟨'}' :: rest, .nameOrClose, stack⟩ ⟨rest, .after (.obj []), stack⟩ :=
  leads_token ['}'] ⟨'}', [], rfl, rfl⟩ (by simp) (fun _ => rfl) fun _ => rfl

theorem leads_closeArray (value : Json) (items : List Json) :
    State.Leads ⟨']' :: rest, .after value, .arr items :: stack⟩
      ⟨rest, .after (.arr (value :: items).reverse), stack⟩ :=
  leads_token [']'] ⟨']', [], rfl, rfl⟩ (by simp) (fun _ => rfl) fun _ => rfl

theorem leads_closeObject (value : Json) (fields : Fields) (name : String) :
    State.Leads ⟨'}' :: rest, .after value, .obj fields name :: stack⟩
      ⟨rest, .after (.obj (Fields.ofList ((name, value) :: fields).reverse)), stack⟩ :=
  leads_token ['}'] ⟨'}', [], rfl, rfl⟩ (by simp) (fun _ => rfl) fun _ => rfl

theorem leads_nextItem (depth : Nat) (value : Json) (items : List Json) :
    State.Leads ⟨',' :: (newLine depth ++ rest), .after value, .arr items :: stack⟩
      ⟨rest, .value, .arr (value :: items) :: stack⟩ := by
  have comma : State.Leads ⟨',' :: (newLine depth ++ rest), .after value, .arr items :: stack⟩
      ⟨newLine depth ++ rest, .value, .arr (value :: items) :: stack⟩ :=
    leads_token [','] ⟨',', [], rfl, rfl⟩ (by simp) (fun _ => rfl) fun _ => rfl
  exact comma.trans (leads_newLine depth)

theorem leads_nextField (depth : Nat) (value : Json) (fields : Fields) (name : String) :
    State.Leads ⟨',' :: (newLine depth ++ rest), .after value, .obj fields name :: stack⟩
      ⟨rest, .name ((name, value) :: fields), stack⟩ := by
  have comma : State.Leads ⟨',' :: (newLine depth ++ rest), .after value, .obj fields name :: stack⟩
      ⟨newLine depth ++ rest, .name ((name, value) :: fields), stack⟩ :=
    leads_token [','] ⟨',', [], rfl, rfl⟩ (by simp) (fun _ => rfl) fun _ => rfl
  exact comma.trans (leads_newLine depth)

/-! ## Lines of a container -/

/-- The lines of a container from the first on, and what comes after them. -/
def linesText (closing : Char) (depth : Nat) (lines : List (List Char)) (rest : List Char) :
    List Char :=
  separated (',' :: newLine (depth + 1)) lines ++ (newLine depth ++ closing :: rest)

theorem linesText_singleton (closing : Char) (depth : Nat) (line rest : List Char) :
    linesText closing depth [line] rest = line ++ (newLine depth ++ closing :: rest) := by
  simp [linesText, separated]

theorem linesText_cons_cons (closing : Char) (depth : Nat) (line next : List Char)
    (more : List (List Char)) (rest : List Char) :
    linesText closing depth (line :: next :: more) rest =
      line ++ ',' :: (newLine (depth + 1) ++ linesText closing depth (next :: more) rest) := by
  simp [linesText, separated, List.intersperse]

theorem block_cons (opening closing : Char) (depth : Nat) (line : List Char)
    (lines : List (List Char)) (rest : List Char) :
    block opening closing depth (line :: lines) ++ rest =
      opening :: (newLine (depth + 1) ++ linesText closing depth (line :: lines) rest) := by
  simp [block, linesText]

theorem ends_newLine (depth : Nat) (rest : List Char) : Ends (newLine depth ++ rest) := .inr rfl

theorem ends_comma (rest : List Char) : Ends (',' :: rest) := .inl rfl

/-! ## Values -/

theorem isSpace_of_isDigit {c : Char} (digit : c.isDigit = true) : isSpace c = false := by
  rw [isSpace, Bool.or_eq_false_iff, Bool.or_eq_false_iff, Bool.or_eq_false_iff]
  refine ⟨⟨⟨?_, ?_⟩, ?_⟩, ?_⟩ <;>
    · rw [beq_eq_false_iff_ne]
      rintro rfl
      cases digit

theorem starts_signed {negative : Bool} {text : List Char}
    (starts : ∃ c tail, text = c :: tail ∧ c.isDigit = true) :
    ∃ c tail, (if negative then ['-'] else []) ++ text = c :: tail ∧ isSpace c = false := by
  obtain ⟨c, tail, rfl, digit⟩ := starts
  cases negative with
  | true => exact ⟨'-', _, rfl, rfl⟩
  | false => exact ⟨c, tail, rfl, isSpace_of_isDigit digit⟩

theorem starts_integer (value : Int) :
    ∃ c tail, Text.integer value = c :: tail ∧ isSpace c = false := by
  obtain ⟨c, tail, written, digit⟩ := (isWhole_digits value.natAbs).starts_digit
  unfold Text.integer
  split
  · exact ⟨'-', _, rfl, rfl⟩
  · exact ⟨c, tail, written, isSpace_of_isDigit digit⟩

theorem starts_float {value : Binary64} (canonical : value.IsCanonical) :
    ∃ c tail, floatText value = c :: tail ∧ isSpace c = false := by
  cases value with
  | nan => exact ⟨'N', _, rfl, rfl⟩
  | infinite negative =>
      cases negative with
      | true => exact ⟨'-', _, rfl, rfl⟩
      | false => exact ⟨'I', _, rfl, rfl⟩
  | finite negative mantissa exponent => exact starts_signed (magnitudeText_starts canonical)

mutual

theorem leads_value : ∀ {value : Json} (depth : Nat) {expecting : Expecting} {stack : List Frame}
    {rest : List Char}, value.IsProper → Ends rest → BeginsValue expecting stack →
    stack.length + value.levels ≤ depthLimit →
    State.Leads ⟨indentedText depth value ++ rest, expecting, stack⟩ ⟨rest, .after value, stack⟩
  | .null, _, _, _, _, _, _, begins, _ => by
    unfold indentedText
    exact leads_scalar ⟨'n', _, rfl, rfl⟩ (fun _ => rfl) begins
  | .bool true, _, _, _, _, _, _, begins, _ => by
    unfold indentedText
    exact leads_scalar ⟨'t', _, rfl, rfl⟩ (fun _ => rfl) begins
  | .bool false, _, _, _, _, _, _, begins, _ => by
    unfold indentedText
    exact leads_scalar ⟨'f', _, rfl, rfl⟩ (fun _ => rfl) begins
  | .int value, _, _, _, _, short, ends, begins, _ => by
    unfold indentedText
    exact leads_scalar (starts_integer value) (fun place => token_integer place ends short) begins
  | .float value, _, _, _, _, canonical, ends, begins, _ => by
    unfold indentedText
    exact leads_scalar (starts_float canonical) (fun place => token_float place canonical ends) begins
  | .str text, _, _, _, _, joined, _, begins, _ => by
    unfold indentedText
    exact leads_string joined begins
  | .arr [], _, _, stack, rest, _, _, begins, deep =>
    (leads_openArray begins (Nat.lt_of_lt_of_le (Nat.lt_succ_self _) deep)).trans
      (leads_emptyArray stack rest)
  | .arr (item :: items), depth, expecting, stack, rest, proper, _, begins, deep => by
    -- The text of the items is what `leads_items` is about, from the first line on.
    have levels : (Json.arr (item :: items)).levels = levelsOfItems (item :: items) + 1 := rfl
    have inside : State.Leads
        ⟨linesText ']' depth (indentedItems (depth + 1) (item :: items)) rest, .valueOrClose,
          .arr [] :: stack⟩
        ⟨rest, .after (.arr (item :: items)), stack⟩ :=
      leads_items depth [] (List.cons_ne_nil item items) proper (beginsValue_first [] stack)
        (by omega)
    unfold indentedText
    rw [indentedItems, block_cons, ← indentedItems]
    exact (leads_openArray begins (by omega)).trans ((leads_newLine (depth + 1)).trans inside)
  | .obj [], _, _, stack, rest, _, _, begins, deep =>
    (leads_openObject begins (Nat.lt_of_lt_of_le (Nat.lt_succ_self _) deep)).trans
      (leads_emptyObject stack rest)
  | .obj ((name, value) :: fields), depth, expecting, stack, rest, proper, _, begins, deep => by
    have levels : (Json.obj ((name, value) :: fields)).levels =
      levelsOfFields ((name, value) :: fields) + 1 := rfl
    have inside : State.Leads
        ⟨linesText '}' depth (indentedFields (depth + 1) ((name, value) :: fields)) rest,
          .nameOrClose, stack⟩
        ⟨rest, .after (.obj ((name, value) :: fields)), stack⟩ :=
      leads_fields depth [] (List.cons_ne_nil _ _) proper (beginsName_first stack) (by omega)
    unfold indentedText
    rw [indentedFields, block_cons, ← indentedFields]
    exact (leads_openObject begins (by omega)).trans ((leads_newLine (depth + 1)).trans inside)

/-- The items before the first of those that follow have been read already, and stand in the frame in
reverse. -/
theorem leads_items : ∀ {items : List Json} (depth : Nat) (done : List Json)
    {expecting : Expecting} {stack : List Frame} {rest : List Char}, items ≠ [] →
    ItemsProper items → BeginsValue expecting (.arr done :: stack) →
    stack.length + 1 + levelsOfItems items ≤ depthLimit →
    State.Leads ⟨linesText ']' depth (indentedItems (depth + 1) items) rest, expecting,
        .arr done :: stack⟩
      ⟨rest, .after (.arr (done.reverse ++ items)), stack⟩
  | [], _, _, _, _, _, some_, _, _, _ => absurd rfl some_
  | [item], depth, done, expecting, stack, rest, _, proper, begins, deep => by
    have shallow : (Frame.arr done :: stack).length + item.levels ≤ depthLimit := by
      simp only [levelsOfItems, List.length_cons] at deep ⊢
      omega
    have first := leads_value (depth + 1) proper.1 (ends_newLine depth (']' :: rest)) begins shallow
    have close : State.Leads ⟨']' :: rest, .after item, .arr done :: stack⟩
        ⟨rest, .after (.arr (item :: done).reverse), stack⟩ := leads_closeArray item done
    rw [List.reverse_cons] at close
    rw [indentedItems, indentedItems, linesText_singleton]
    exact first.trans ((leads_newLine depth).trans close)
  | item :: next :: more, depth, done, expecting, stack, rest, _, proper, begins, deep => by
    have levels : levelsOfItems (item :: next :: more) =
        max item.levels (levelsOfItems (next :: more)) := rfl
    have later : State.Leads
        ⟨linesText ']' depth (indentedItems (depth + 1) (next :: more)) rest, .value,
          .arr (item :: done) :: stack⟩
        ⟨rest, .after (.arr ((item :: done).reverse ++ next :: more)), stack⟩ :=
      leads_items depth (item :: done) (List.cons_ne_nil next more) proper.2
        (beginsValue (.arr (item :: done) :: stack)) (by omega)
    have shallow : (Frame.arr done :: stack).length + item.levels ≤ depthLimit := by
      rw [List.length_cons]
      omega
    have first := leads_value (depth + 1) proper.1 (ends_comma (newLine (depth + 1) ++
      linesText ']' depth (indentedItems (depth + 1) (next :: more)) rest)) begins shallow
    rw [List.reverse_cons, List.append_assoc, List.singleton_append] at later
    rw [indentedItems, indentedItems, linesText_cons_cons, ← indentedItems]
    exact first.trans ((leads_nextItem (depth + 1) item done).trans later)

theorem leads_fields : ∀ {fields : List (String × Json)} (depth : Nat) (done : Fields)
    {expecting : Expecting} {stack : List Frame} {rest : List Char}, fields ≠ [] →
    (Fields.names (done.reverse ++ fields)).Nodup ∧ FieldsProper fields →
    BeginsName expecting done stack →
    stack.length + 1 + levelsOfFields fields ≤ depthLimit →
    State.Leads ⟨linesText '}' depth (indentedFields (depth + 1) fields) rest, expecting, stack⟩
      ⟨rest, .after (.obj (done.reverse ++ fields)), stack⟩
  | [], _, _, _, _, _, some_, _, _, _ => absurd rfl some_
  | [(name, value)], depth, done, expecting, stack, rest, _, ⟨distinct, joined, proper, _⟩, begins,
      deep => by
    have shallow : (Frame.obj done name :: stack).length + value.levels ≤ depthLimit := by
      simp only [levelsOfFields, List.length_cons] at deep ⊢
      omega
    have first := leads_value (depth + 1) proper (ends_newLine depth ('}' :: rest))
      (beginsValue (.obj done name :: stack)) shallow
    have close : State.Leads ⟨'}' :: rest, .after value, .obj done name :: stack⟩
        ⟨rest, .after (.obj (Fields.ofList ((name, value) :: done).reverse)), stack⟩ :=
      leads_closeObject value done name
    rw [List.reverse_cons, Fields.ofList_of_nodup distinct] at close
    rw [indentedFields, indentedFields, linesText_singleton, List.append_assoc]
    exact (leads_name joined begins).trans (first.trans ((leads_newLine depth).trans close))
  | (name, value) :: (next, own) :: more, depth, done, expecting, stack, rest, _,
      ⟨distinct, joined, proper, others⟩, begins, deep => by
    have levels : levelsOfFields ((name, value) :: (next, own) :: more) =
        max value.levels (levelsOfFields ((next, own) :: more)) := rfl
    have order : ((name, value) :: done).reverse ++ (next, own) :: more =
        done.reverse ++ (name, value) :: (next, own) :: more := by
      rw [List.reverse_cons, List.append_assoc, List.singleton_append]
    have later : State.Leads
        ⟨linesText '}' depth (indentedFields (depth + 1) ((next, own) :: more)) rest,
          .name ((name, value) :: done), stack⟩
        ⟨rest, .after (.obj (((name, value) :: done).reverse ++ (next, own) :: more)), stack⟩ :=
      leads_fields depth ((name, value) :: done) (List.cons_ne_nil _ _)
        ⟨by rw [order]; exact distinct, others⟩
        (beginsName ((name, value) :: done) stack) (by omega)
    have shallow : (Frame.obj done name :: stack).length + value.levels ≤ depthLimit := by
      rw [List.length_cons]
      omega
    have first := leads_value (depth + 1) proper (ends_comma (newLine (depth + 1) ++
      linesText '}' depth (indentedFields (depth + 1) ((next, own) :: more)) rest))
      (beginsValue (.obj done name :: stack)) shallow
    rw [order] at later
    rw [indentedFields, indentedFields, linesText_cons_cons, ← indentedFields, List.append_assoc]
    exact (leads_name joined begins).trans
      (first.trans ((leads_nextField (depth + 1) value done name).trans later))

end

/-- The text with one item a line denotes the value that it was written for. -/
theorem parse_indented {value : Json} (proper : value.IsProper) (deep : value.levels ≤ depthLimit) :
    parse value.indented = .ok value := by
  have leads : State.Leads ⟨indentedText 0 value ++ [], .value, []⟩ ⟨[], .after value, []⟩ :=
    leads_value 0 proper trivial (beginsValue []) (by simpa using deep)
  rw [List.append_nil] at leads
  exact parse_of_leads leads

end ChainFlow.Json

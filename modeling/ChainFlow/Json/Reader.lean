import ChainFlow.Json.Encoding
import ChainFlow.Json.Token

/-!
# Reading JSON

`parse` reads a text as one JSON value. It goes through the tokens once, with the arrays and objects
that are still open on a stack, and stops at the first token that cannot stand where it does. A
field name that is repeated keeps its first place and its last value. `Misread.message` gives the
defect with its line and column.
-/

namespace ChainFlow.Json

/-- A container that is still open, with what it holds so far in reverse. -/
inductive Frame where
  | arr (items : List Json)
  | obj (fields : Fields) (name : String)

inductive Expecting where
  | value
  | valueOrClose
  | name (fields : Fields)
  | nameOrClose
  | colon (fields : Fields) (name : String)
  /-- A separator or the end of the innermost open container, or of the text, after a value. -/
  | after (value : Json)

def unexpected (located : Located) (defect : Defect) : Misread :=
  match located.token, defect with
  | .broken misread, .value => misread
  | _, _ => ⟨defect, located.place⟩

/-- How many containers may stand inside one another. -/
def depthLimit : Nat := 950

def beginValue (located : Located) (stack : List Frame) : Except Misread (Expecting × List Frame) :=
  let opened (container : Container) (next : Expecting × List Frame) :
      Except Misread (Expecting × List Frame) :=
    if depthLimit ≤ stack.length then .error ⟨.depth container, located.place⟩ else .ok next
  match located.token with
  | .scalar value => .ok (.after value, stack)
  | .str text => .ok (.after (.str text), stack)
  | .openArray => opened .array (.valueOrClose, .arr [] :: stack)
  | .openObject => opened .object (.nameOrClose, stack)
  | _ => .error (unexpected located .value)

/-- A field name. Of the tokens that cannot be read only a string reports its own defect. -/
def beginName (located : Located) (fields : Fields) (stack : List Frame) :
    Except Misread (Expecting × List Frame) :=
  match located.token with
  | .str name => .ok (.colon fields name, stack)
  | .broken ⟨.digits _, _⟩ => .error ⟨.name, located.place⟩
  | .broken misread => .error misread
  | _ => .error ⟨.name, located.place⟩

def afterValue (located : Located) (value : Json) :
    List Frame → Except Misread (Expecting × List Frame)
  | [] => .error ⟨.extra, located.place⟩
  | .arr items :: stack =>
    match located.token with
    | .comma => .ok (.value, .arr (value :: items) :: stack)
    | .closeArray => .ok (.after (.arr (value :: items).reverse), stack)
    | _ => .error ⟨.comma, located.place⟩
  | .obj fields name :: stack =>
    match located.token with
    | .comma => .ok (.name ((name, value) :: fields), stack)
    | .closeObject =>
      .ok (.after (.obj (Fields.ofList ((name, value) :: fields).reverse)), stack)
    | _ => .error ⟨.comma, located.place⟩

def advance (located : Located) (expecting : Expecting) (stack : List Frame) :
    Except Misread (Expecting × List Frame) :=
  match expecting with
  | .value => beginValue located stack
  | .valueOrClose =>
    match located.token, stack with
    | .closeArray, .arr items :: stack => .ok (.after (.arr items.reverse), stack)
    | _, stack => beginValue located stack
  | .nameOrClose =>
    match located.token with
    | .closeObject => .ok (.after (.obj []), stack)
    | _ => beginName located [] stack
  | .name fields => beginName located fields stack
  | .colon fields name =>
    match located.token with
    | .colon => .ok (.value, .obj fields name :: stack)
    | _ => .error ⟨.colon, located.place⟩
  | .after value => afterValue located value stack

def readTokens : List Located → Expecting → List Frame → Except Misread Json
  | [], _, _ => .error ⟨.value, 0⟩
  | located :: rest, expecting, stack =>
    match located.token, expecting, stack with
    | .finish, .after value, [] => .ok value
    | _, _, _ =>
      match advance located expecting stack with
      | .ok (expecting, stack) => readTokens rest expecting stack
      | .error misread => .error misread

def parse (text : List Char) : Except Misread Json :=
  match text with
  | '\uFEFF' :: _ => .error ⟨.byteOrderMark, 0⟩
  | _ => readTokens (tokens text) .value []

/-- The value that a text denotes whose bytes show their encoding. -/
def parseBytes (text : List Char) : Except Misread Json :=
  match decode text with
  | some text => readTokens (tokens text) .value []
  | none => .error ⟨.encoding, 0⟩

def Defect.message : Defect → String
  | .value => "Expecting value"
  | .name => "Expecting property name enclosed in double quotes"
  | .colon => "Expecting ':' delimiter"
  | .comma => "Expecting ',' delimiter"
  | .extra => "Extra data"
  | .unterminated => "Unterminated string starting at"
  | .control => "Invalid control character at"
  | .escape => "Invalid \\escape"
  | .unicodeEscape => "Invalid \\uXXXX escape"
  | .byteOrderMark => "Unexpected UTF-8 BOM (decode using utf-8-sig)"
  | .digits count => Text.digitLimitMessage count
  | .depth container =>
    let container := match container with
      | .array => "array"
      | .object => "object"
    s!"maximum recursion depth exceeded while decoding a JSON {container} from a unicode string"
  | .encoding => "The encoding cannot be read"

/-- The line of a place, and the column in it, both counted from one. -/
def lineAndColumn (text : List Char) (place : Nat) : Nat × Nat :=
  let before := text.take place
  (before.count '\n' + 1, (before.reverse.takeWhile (· ≠ '\n')).length + 1)

/-- The words for a defect, and where it is if that is said. -/
def Misread.message (misread : Misread) (text : List Char) : String :=
  if misread.defect.isSyntax then
    let (line, column) := lineAndColumn text misread.place
    s!"{misread.defect.message}: line {line} column {column} (char {misread.place})"
  else misread.defect.message

end ChainFlow.Json

import ChainFlow.Text.Blank

/-!
# Files of variables

A file of variables holds lines such as `NAME=value`. A value may stand between quotes, and may then
go on over several lines and hold escapes; without quotes it ends before a blank and a `#`. A line
that is none of this is passed over. In a value, `${NAME}` stands for another variable and
`${NAME:-other}` for another text where the variable is not there.
-/

namespace ChainFlow.Dotenv

open Text

/-- A variable; one that is only named has no value. -/
abbrev Binding := String × Option String

/-- A quoted part as it is written, and the rest of the text after the quote that closes it; a
character after a backslash closes nothing. -/
def quotedPart (mark : Char) : List Char → Option (List Char × List Char)
  | [] | ['\\'] => none
  | '\\' :: c :: rest => (quotedPart mark rest).map fun (part, rest) => ('\\' :: c :: part, rest)
  | c :: rest =>
    if c = mark then some ([], rest)
    else (quotedPart mark rest).map fun (part, rest) => (c :: part, rest)

/-- The character that an escape stands for, between quotes of a kind. -/
def escape? (mark c : Char) : Option Char :=
  if c = '\\' ∨ c = '\'' then some c
  else if mark = '\'' then none
  else
    match c with
    | '"' => some '"'
    | 'a' => some '\x07'
    | 'b' => some '\x08'
    | 'f' => some '\x0c'
    | 'n' => some '\n'
    | 'r' => some '\r'
    | 't' => some '\t'
    | 'v' => some '\x0b'
    | _ => none

def unescape (mark : Char) : List Char → List Char
  | [] => []
  | ['\\'] => ['\\']
  | '\\' :: c :: rest =>
    match escape? mark c with
    | some escaped => escaped :: unescape mark rest
    | none => '\\' :: unescape mark (c :: rest)
  | c :: rest => c :: unescape mark rest
termination_by text => text.length

def withoutComment : List Char → List Char
  | [] => []
  | c :: rest =>
    if isBlank c && (rest.dropWhile isBlank).head? == some '#' then []
    else c :: withoutComment rest

/-- The rest of a text after the line it begins with. -/
def afterLine (text : List Char) : List Char := (text.dropWhile (!endsLine ·)).drop 1

/-- The rest of a text after the end of a line, which a comment may come before; nothing if the line
goes on. -/
def endOfLine? (text : List Char) : Option (List Char) :=
  match text.dropWhile isInnerBlank with
  | [] => some []
  | '#' :: rest => some (afterLine rest)
  | c :: rest => if endsLine c then some rest else none

/-- What a text begins with: a part that is understood, and the rest; or the rest from where it
cannot be understood. -/
inductive Scan (α : Type) where
  | found (value : α) (rest : List Char)
  | stuck (rest : List Char)

/-- The name at the beginning of a line; a comment has none. -/
def scanName (text : List Char) : Scan (Option (List Char)) :=
  match text with
  | '#' :: _ => .found none text
  | '\'' :: quoted =>
    match quoted.takeWhile (· ≠ '\''), quoted.dropWhile (· ≠ '\'') with
    | _ :: _, '\'' :: rest => .found (some (quoted.takeWhile (· ≠ '\''))) rest
    | _, _ => .stuck text
  | _ =>
    let inName (c : Char) : Bool := c ≠ '=' && c ≠ '#' && !isBlank c
    match text.takeWhile inName with
    | [] => .stuck text
    | name => .found (some name) (text.dropWhile inName)

/-- The value after an equals sign; after blanks a comment may stand in its place. -/
def scanValue (text : List Char) : Scan (List Char) :=
  match text.dropWhile isInnerBlank with
  | [] => .found [] []
  | c :: rest =>
    let afterBlank := (text.head?.map isInnerBlank).getD false
    if c = '#' ∧ afterBlank then .found [] (c :: rest)
    else if c = '\'' ∨ c = '"' then
      match quotedPart c rest with
      | some (part, rest) => .found (unescape c part) rest
      | none => .stuck text
    else if endsLine c then .found [] (c :: rest)
    else
      let line := (c :: rest).takeWhile (!endsLine ·)
      .found ((withoutComment line).reverse.dropWhile isBlank).reverse
        (text.dropWhile (!endsLine ·))

def withoutExport (text : List Char) : List Char :=
  let word := "export".toList
  let rest := text.drop word.length
  if word.isPrefixOf text && (rest.head?.any isInnerBlank) then rest.dropWhile isInnerBlank
  else text

def scanBinding (text : List Char) : Option Binding × List Char :=
  match scanName (withoutExport text) with
  | .stuck rest => (none, afterLine rest)
  | .found name rest =>
    let finish (value : Option (List Char)) (rest : List Char) : Option Binding × List Char :=
      match endOfLine? rest with
      | some rest => (name.map fun name => (String.ofList name, value.map String.ofList), rest)
      | none => (none, afterLine rest)
    match rest.dropWhile isInnerBlank with
    | '=' :: rest =>
      match scanValue rest with
      | .found value rest => finish (some value) rest
      | .stuck rest => (none, afterLine rest)
    | rest => finish none rest

/-- The variables of a text. Every step takes at least one character, so `fuel` above the length of
the text is enough. -/
def bindings : Nat → List Char → List Binding
  | 0, _ => []
  | fuel + 1, text =>
    match text.dropWhile isBlank with
    | [] => []
    | text =>
      match scanBinding text with
      | (some binding, rest) => binding :: bindings fuel rest
      | (none, rest) => bindings fuel rest

/-- The name, the text for want of a value, and the rest after a reference to a variable, from
behind its opening brace. -/
def reference? (text : List Char) : Option (String × String × List Char) :=
  let name := text.takeWhile fun c => c ≠ '}' && c ≠ ':'
  match text.dropWhile fun c => c ≠ '}' && c ≠ ':' with
  | '}' :: rest => some (String.ofList name, "", rest)
  | ':' :: '-' :: rest =>
    match rest.dropWhile (· ≠ '}') with
    | '}' :: after => some (String.ofList name, String.ofList (rest.takeWhile (· ≠ '}')), after)
    | _ => none
  | _ => none

/-- A value with its references replaced. `fuel` is above the length of the text. -/
def expand (find : String → Option String) : Nat → List Char → List Char
  | 0, text => text
  | _ + 1, [] => []
  | fuel + 1, '$' :: '{' :: rest =>
    match reference? rest with
    | some (name, otherwise, rest) => ((find name).getD otherwise).toList ++ expand find fuel rest
    | none => '$' :: expand find fuel ('{' :: rest)
  | fuel + 1, c :: rest => c :: expand find fuel rest

/-- A variable set among others: a new value stands where the old one stood. -/
def put (name : String) (value : Option String) : List Binding → List Binding
  | [] => [(name, value)]
  | (other, old) :: rest =>
    if other = name then (name, value) :: rest else (other, old) :: put name value rest

/-- Variables with the references in their values replaced, each by what is known so far: the
variables before it, and others from outside. -/
def resolve (outside : List (String × String)) : List Binding → List Binding → List Binding
  | known, [] => known
  | known, (name, value) :: rest =>
    let find (name : String) : Option String :=
      match known.lookup name with
      | some value => some (value.getD "")
      | none => outside.lookup name
    let value := value.map fun value =>
      String.ofList (expand find (value.length + 1) value.toList)
    resolve outside (put name value known) rest

def read (outside : List (String × String)) (text : String) : List Binding :=
  let text := unifyLines text.toList
  resolve outside [] (bindings (text.length + 1) text)

end ChainFlow.Dotenv

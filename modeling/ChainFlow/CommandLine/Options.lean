import ChainFlow.Text.Digit

/-!
# Reading the words of a command line

A command takes options and words. An option is written with two dashes and may be cut short as long
as no other option begins in the same way; its value is the next word, or stands behind an equals
sign. After a word of two dashes alone everything is a plain word. `read` goes through the words
from left to right and stops at the first that settles everything: a call for help, or a mistake.
-/

namespace ChainFlow.CommandLine

def helpOption : String := "--help"

inductive Word where
  | plain (text : String)
  | help
  /-- An option with a value, and the value if it stands in the same word. -/
  | option (name : String) (value : Option String)
  | unknown
  /-- The word after which there are no options. -/
  | separator
  | broken
  /-- A word that could be cut short from several options. -/
  | ambiguous

def withoutLineFeed (text : List Char) : List Char :=
  if text.getLast? = some '\n' then text.dropLast else text

/-- Whether a word is a number below zero, in the digits of any script; a line feed may end it. -/
def isNegativeNumber (word : List Char) : Bool :=
  let isDigit (c : Char) : Bool := (Text.digit? c).isSome
  match withoutLineFeed word with
  | '-' :: rest =>
    match rest.dropWhile isDigit with
    | [] => !rest.isEmpty
    | '.' :: fraction => !fraction.isEmpty && fraction.all isDigit
    | _ => false
  | _ => false

def splitValue (word : String) : String × Option String :=
  let chars := word.toList
  match chars.dropWhile (· ≠ '=') with
  | _ :: value => (String.ofList (chars.takeWhile (· ≠ '=')), some (String.ofList value))
  | [] => (word, none)

def named (name : String) (value : Option String) : Word :=
  if name = helpOption then if value.isSome then .broken else .help else .option name value

def longWord (options : List String) (word : String) : Word :=
  let (name, value) := splitValue word
  match options.find? (· == word), options.find? (· == name) with
  | some name, _ => named name none
  | none, some name => named name value
  | none, none =>
    match options.filter (·.startsWith name) with
    | [] => if word.contains ' ' then .plain word else .unknown
    | [name] => named name value
    | _ => .ambiguous

/-- A word with one dash. Only help has a short form, which may be repeated in one word; an equals
sign may stand before the repetitions. -/
def shortWord (word : String) : Word :=
  match word.toList with
  | ['-'] => .plain word
  | ['-', 'h'] => .help
  | '-' :: 'h' :: '=' :: rest => if !rest.isEmpty && rest.all (· = 'h') then .help else .broken
  | '-' :: 'h' :: rest => if rest.all (· = 'h') then .help else .broken
  | chars =>
    if isNegativeNumber chars || word.contains ' ' then .plain word else .unknown

def classify (options : List String) (word : String) : Word :=
  if word = "--" then .separator
  else if word.startsWith "--" then longWord options word
  else if word.startsWith "-" then shortWord word
  else .plain word

/-- Whether a word that comes before any separator could be cut short from several options. All words
are looked at for this before any of them is taken. -/
def hasAmbiguous (options words : List String) : Bool :=
  (words.takeWhile (· ≠ "--")).any fun word => classify options word matches .ambiguous

inductive Reading (α : Type) where
  | found (value : α)
  | help
  | refused

structure Given where
  words : List String
  options : List (String × String)
  /-- Whether something was given that the command does not take. -/
  excess : Bool
  /-- Whether an option came after a plain word: all plain words stand together. -/
  closed : Bool

def Given.nothing : Given := ⟨[], [], false, false⟩

def Given.option? (given : Given) (name : String) : Option String :=
  given.options.reverse.lookup name

def Given.withOption (given : Given) (name value : String) : Given :=
  { given with
    options := given.options ++ [(name, value)]
    closed := given.closed || !given.words.isEmpty }

structure Takes where
  /-- The names of the options, help among them. -/
  options : List String
  /-- How many plain words there may be. -/
  places : Nat
  /-- Which words may stand first; any word if nothing is said. -/
  first : Option (List String)

namespace Takes

/-- One more plain word; nothing if it may not stand where it does. -/
def takeWord (takes : Takes) (given : Given) (word : String) : Option Given :=
  if !given.closed && given.words.length < takes.places then
    if given.words.isEmpty && takes.first.any (!·.contains word) then none
    else some { given with words := given.words ++ [word] }
  else some { given with excess := true }

def takeWords (takes : Takes) : Given → List String → Reading Given
  | given, [] => .found given
  | given, word :: rest =>
    match takes.takeWord given word with
    | some given => takeWords takes given rest
    | none => .refused

def readFrom (takes : Takes) : Given → List String → Reading Given
  | given, [] => .found given
  | given, word :: rest =>
    match classify takes.options word with
    | .separator => takes.takeWords { given with excess := given.excess || given.closed } rest
    | .plain word =>
      match takes.takeWord given word with
      | some given => readFrom takes given rest
      | none => .refused
    | .help => .help
    | .broken | .ambiguous => .refused
    | .unknown => readFrom takes { given with excess := true } rest
    | .option name (some value) => readFrom takes (given.withOption name value) rest
    | .option name none =>
      match rest with
      | [] => .refused
      | value :: rest =>
        match classify takes.options value with
        | .plain value => readFrom takes (given.withOption name value) rest
        | _ => .refused

def read (takes : Takes) (words : List String) : Reading Given :=
  if hasAmbiguous takes.options words then .refused else takes.readFrom .nothing words

end Takes

end ChainFlow.CommandLine

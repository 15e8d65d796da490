import ChainFlow.CommandLine.Options

/-!
# Commands

The commands of the program: to quote a drawing, to run it, and to show templates. A drawing comes
from a file or from a template, and a session with the gateway is opened where an address is given.
-/

namespace ChainFlow.CommandLine

structure Job where
  file : Option String
  template : Option String
  address : Option String

inductive Display where
  | saved
  | examples
  | one (id : Option String)

inductive Command where
  | simulate (job : Job)
  | execute (job : Job)
  | templates (display : Display)

/-- A command and the level at which it logs; there may be no command. -/
structure Invocation where
  command : Option Command
  logLevel : Option String

def jobTakes : Takes := ⟨[helpOption, "--template", "--address"], 1, none⟩

def templatesTakes : Takes := ⟨[helpOption], 2, some ["list", "examples", "show"]⟩

def jobOf (given : Given) : Job :=
  ⟨given.words.head?, given.option? "--template", given.option? "--address"⟩

def displayOf (given : Given) : Display :=
  match given.words with
  | "examples" :: _ => .examples
  | "show" :: rest => .one rest.head?
  | _ => .saved

def commandOf? (word : String) : Option (Takes × (Given → Command)) :=
  match word with
  | "simulate" => some (jobTakes, fun given => .simulate (jobOf given))
  | "execute" => some (jobTakes, fun given => .execute (jobOf given))
  | "templates" => some (templatesTakes, fun given => .templates (displayOf given))
  | _ => none

def mainOptions : List String := [helpOption, "--log-level"]

/-- Reads a command line. `excess` says whether something was given so far that is not taken, and
`logLevel` is the level given so far. -/
def readFrom (excess : Bool) (logLevel : Option String) : List String → Reading Invocation
  | [] => if excess then .refused else .found ⟨none, logLevel⟩
  | word :: rest =>
    match classify mainOptions word with
    | .separator => .refused
    | .plain word =>
      match commandOf? word with
      | none => .refused
      | some (takes, command) =>
        match takes.read rest with
        | .found given =>
          if excess || given.excess then .refused else .found ⟨some (command given), logLevel⟩
        | .help => .help
        | .refused => .refused
    | .help => .help
    | .broken | .ambiguous => .refused
    | .unknown => readFrom true logLevel rest
    | .option _ (some value) => readFrom excess (some value) rest
    | .option _ none =>
      match rest with
      | [] => .refused
      | value :: rest =>
        match classify mainOptions value with
        | .plain value => readFrom excess (some value) rest
        | _ => .refused

def Invocation.read (words : List String) : Reading Invocation :=
  if hasAmbiguous mainOptions words then .refused else readFrom false none words

end ChainFlow.CommandLine

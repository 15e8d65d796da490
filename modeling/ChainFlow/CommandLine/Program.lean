import ChainFlow.CommandLine.Command
import ChainFlow.CommandLine.Folder
import ChainFlow.CommandLine.Report
import ChainFlow.Flow.DryRun
import ChainFlow.Flow.LiveRun
import ChainFlow.Gateway.Session
import ChainFlow.Log.Line
import ChainFlow.Template.Store
import ChainFlow.Text.Blank

/-!
# The program

`Program.run` performs a command line: what it prints, its exit code, and the fault it stops with if
it has no words for it. Faults that a user can do something about are printed; a drawing that breaks
a rule is printed with all its issues.
-/

namespace ChainFlow

def Fault.isReported : Fault → Bool
  | .unrunnable _ => true
  | .illFormed .. => true
  | .unsupported _ => true
  | .noVault .. => true
  | .notConnected => true
  | .gateway _ => true
  | .badAmount _ => true
  | .unreadable .. => true
  | .unknownAction _ => true
  | .badChainId _ => true
  | .tooManyDigits _ => true
  | .badTransition .. => true
  | .noTemplate _ => true
  | .noFlow => true
  | .notJson _ => true
  | .noFile _ => true
  | .isDirectory _ => true
  | .notAFolder _ => true
  | .nameTooLong _ => true
  | .nullInName => true
  | .notUtf8 _ => true
  | .badHeader (.str _) => true
  | .tooNested => true
  | .notFinite => true
  | .badName _ => true
  | .noType _ => true
  | .badSetting .. => true
  | .raised raiser _ => raiser ≠ .runtime ∧ raiser ≠ .other
  | _ => false

def Fault.report : Fault → String
  | .unrunnable cause => s!"❌ Invalid flow: {cause.message}"
  | .illFormed issues _ =>
    let issues := "; ".intercalate issues
    s!"❌ Invalid flow: {issues}"
  | fault => s!"❌ Error: {fault.message}"

namespace CommandLine

structure Program (σ : Type) where
  gateway : Gateway σ
  /-- The engine around a backend, or around none. -/
  engine : Option (Backend (Client σ)) → Engine (Client σ)
  /-- The delay between the steps of a run, in milliseconds. -/
  delay : Int
  successRate : Binary64
  /-- The word for the level of the log where none is given. -/
  logLevel : String
  folder : Folder
  store : TemplateStore

structure Ending (σ : Type) where
  output : String
  exit : Nat
  fault : Option Fault
  world : World (Client σ)

namespace Program

variable {σ : Type}

/-- A computation of a command that prints: the text is kept also if it comes to a fault. -/
abbrev Printed (σ : Type) := String × Option Fault × World (Client σ)

def valueOf (text : String) : Except Fault Json :=
  let text := Text.unifyLines text.toList
  match Json.parse text with
  | .ok value => .ok value
  | .error misread => .error (ofMisread text misread)

def graphOf (text : String) : Except Fault Graph := do
  match ← valueOf text with
  | .obj fields =>
    let listOf (name : String) : Json := (Fields.get? fields name).getD (.arr [])
    let nodes ← Graph.readNodes (listOf "nodes")
    return ⟨nodes, ← Graph.readEdges (listOf "edges")⟩
  | value => .error (.notAnObject value)

/-- The drawing of a job: that of a template if one is named, else that of a file. -/
def graph (program : Program σ) (job : Job) (now : Int) : Except Fault Graph :=
  match job.template.filter (· ≠ ""), job.file.filter (· ≠ "") with
  | some id, _ => program.store.load now id
  | none, some path =>
    (program.folder.read path).bind graphOf
  | none, none => .error .noFlow

/-- Opens a session if an address is given: what is printed, and the backend. -/
def open? (program : Program σ) (address : Option String) (world : World (Client σ)) :
    Except Fault (String × Option (Backend (Client σ))) × World (Client σ) :=
  match address.filter (· ≠ "") with
  | none => (.ok ("", none), world)
  | some address =>
    match (program.gateway.openSession address).runIn world with
    | (.ok (), world) =>
      (.ok (lines [s!"🔗 Nexus session opened for {address}"], some program.gateway.backend), world)
    | (.error fault, world) => (.error fault, world)

def simulate (program : Program σ) (job : Job) (world : World (Client σ)) : Printed σ :=
  match program.graph job world.clock with
  | .error fault => ("", some fault, world)
  | .ok graph =>
    match program.open? job.address world with
    | (.error fault, world) => ("", some fault, world)
    | (.ok (opened, backend), world) =>
      let engine := program.engine backend
      match engine.quoteFlow program.successRate graph.nodes graph.edges world with
      | (.error fault, world) => (opened, some fault, world)
      | (.ok quote, world) => (opened ++ quoteReport quote, none, world)

def execute (program : Program σ) (job : Job) (world : World (Client σ)) : Printed σ :=
  match program.graph job world.clock with
  | .error fault => ("", some fault, world)
  | .ok graph =>
    match program.open? job.address world with
    | (.error fault, world) => ("", some fault, world)
    | (.ok (opened, backend), world) =>
      let warning :=
        if backend.isSome then []
        else ["⚠️  No address given, executing with mock transactions"]
      let (run, world) := (program.engine backend).performFlow program.delay
        (some fun _ _ => none) graph.nodes graph.edges world
      (opened ++ lines (warning ++ ["🚀 Executing flow..."]) ++
        String.join (world.notices.map outcomeReport) ++ runReport run, none, world)

def templates (program : Program σ) (display : Display) (now : Int) : Except Fault String :=
  match display with
  | .saved => (program.store.saved now).map templatesReport
  | .examples => .ok (templatesReport (Template.examples now))
  | .one id =>
    match program.store.find? now (id.getD "") with
    | .error fault => .error fault
    | .ok none => .ok (lines [s!"❌ Template not found: {orNone id}"])
    | .ok (some template) =>
      if template.fitsLevels then .ok (templateReport template) else .error .tooNested

def perform (program : Program σ) (command : Command) (world : World (Client σ)) : Printed σ :=
  match command with
  | .simulate job => program.simulate job world
  | .execute job => program.execute job world
  | .templates display =>
    match program.templates display world.clock with
    | .ok shown => (shown, none, world)
    | .error fault => ("", some fault, world)

def ending (printed : Printed σ) : Ending σ :=
  match printed with
  | (output, none, world) => ⟨output, 0, none, world⟩
  | (output, some fault, world) =>
    if fault.isReported then ⟨output ++ lines [fault.report], 0, none, world⟩
    else ⟨output, 0, some fault, world⟩

def refusedExit : Nat := 2

def usage : String := lines ["usage: chainflow [-h] [--log-level LOG_LEVEL] COMMAND ...", "",
  "  simulate [file] [--template TEMPLATE] [--address ADDRESS]   quote a flow",
  "  execute [file] [--template TEMPLATE] [--address ADDRESS]    run a flow",
  "  templates [list | examples | show] [template]               show templates"]

def run (program : Program σ) (words : List String) (world : World (Client σ)) : Ending σ :=
  match Invocation.read words with
  | .help => ⟨usage, 0, none, world⟩
  | .refused => ⟨"", refusedExit, none, world⟩
  | .found invocation =>
    match Log.levelOf invocation.logLevel program.logLevel, invocation.command with
    | .error fault, _ => ⟨"", 0, some fault, world⟩
    | .ok _, none => ⟨usage, 0, none, world⟩
    | .ok _, some command => ending (program.perform command world)

end Program

end CommandLine

end ChainFlow

import ChainFlow.Binary64.Rounded
import ChainFlow.Quote
import ChainFlow.Run
import ChainFlow.Template.Basic

/-!
# Reports

What the program prints: a quote as a table, a run as it goes on and at its end, and templates as a
list. Columns have a least width and are never cut.
-/

namespace ChainFlow.CommandLine

def leftAligned (width : Nat) (text : String) : String :=
  text ++ String.ofList (List.replicate (width - text.length) ' ')

def rightAligned (width : Nat) (text : String) : String :=
  String.ofList (List.replicate (width - text.length) ' ') ++ text

def number (n : Int) : String := String.ofList (Text.integer n)

def lines (lines : List String) : String := String.join (lines.map (· ++ "\n"))

def rule (c : Char) : String := String.ofList (List.replicate 50 c)

def orNone (text : Option String) : String := text.getD "None"

/-- A share of one as a percentage without places. -/
def percentage (share : Binary64) : String := String.ofList ((share.scale 100).fixed 0) ++ "%"

def quoteLine (position : Nat) (quote : Quote) : String :=
  let place := rightAligned 2 (number position)
  let id := leftAligned 14 quote.node
  if quote.success then
    let route := " → ".intercalate (quote.route.getD [])
    let cost := rightAligned 8 quote.cost
    let seconds := rightAligned 4 (number quote.seconds)
    s!"{place}. ✅ {id} ${cost} {seconds}s  {route}"
  else s!"{place}. ❌ {id} {orNone quote.error}"

def quoteLines : Nat → List Quote → List String
  | _, [] => []
  | position, quote :: rest => quoteLine position quote :: quoteLines (position + 1) rest

def quoteReport (quote : FlowQuote) : String :=
  lines (["", "🧮 Simulation", rule '=', s!"Total Cost: ${quote.totalCost}",
    s!"Total Time: ~{number quote.totalSeconds}s",
    s!"Success Rate: {percentage quote.successRate}", "", "Steps:", rule '-'] ++
    quoteLines 1 quote.quotes)

def outcomeReport (outcome : Outcome) : String :=
  if outcome.success then
    lines (s!"  ✅ {outcome.node}: {orNone outcome.hash}" ::
      match outcome.url.filter (· ≠ "") with
      | some url => [s!"     {url}"]
      | none => [])
  else lines [s!"  ❌ {outcome.node}: {orNone outcome.error}"]

/-- A number of milliseconds in seconds with one place. -/
def elapsed (milliseconds : Int) : String :=
  String.ofList ((Binary64.ofRatio (milliseconds < 0) milliseconds.natAbs 1000).fixed 1)

def runReport (run : FlowRun) : String :=
  let icon := if run.status = .completed then "✅" else "❌"
  let ended := (run.ended.filter (· ≠ 0)).getD run.started
  lines (["", s!"{icon} Execution {run.status.word} in {elapsed (ended - run.started)}s"] ++
    match run.firstError.filter (· ≠ "") with
    | some error => [s!"Error: {error}"]
    | none => [])

def templateLines (template : Template) : List String :=
  let tags :=
    match template.tags.getD [] with
    | [] => ""
    | tags =>
      let tags := ", ".intercalate tags
      s!" [{tags}]"
  s!"{leftAligned 28 template.id} {template.name}{tags}" ::
    if template.description = "" then [] else [s!"    {template.description}"]

def templatesReport (templates : List Template) : String :=
  if templates.isEmpty then lines ["No saved templates"]
  else lines (templates.flatMap templateLines)

def templateReport (template : Template) : String :=
  lines [String.ofList (template.dump .document).indented]

end ChainFlow.CommandLine

import ChainFlow.Fault
import ChainFlow.Log.Message
import ChainFlow.Text.Case

/-!
# Log lines

Records below the level of their logger are dropped, and so are those at no level at all. The others
are written as one line of JSON each, with the fields that are bound to the current run. At the
level for debugging the lines are for a console instead, and are not made here.
-/

namespace ChainFlow.Log

def levels : List (String × Nat) := [("NOTSET", 0), ("DEBUG", 10), ("INFO", 20), ("WARNING", 30),
  ("WARN", 30), ("ERROR", 40), ("CRITICAL", 50), ("FATAL", 50)]

/-- The level at which lines are for a console. -/
def debugging : Nat := 10

/-- The level where a name is none. -/
def ordinary : Nat := 20

def quiet : Nat := 30

def basicFormat : String := "%(levelname)s:%(name)s:%(message)s"

def shownStyles : String :=
  "\x7b'%': (<class 'logging.PercentStyle'>, '%(levelname)s:%(name)s:%(message)s'), " ++
  "'\x7b': (<class 'logging.StrFormatStyle'>, '\x7blevelname\x7d:\x7bname\x7d:\x7bmessage\x7d'), " ++
  "'$': (<class 'logging.StringTemplateStyle'>, " ++
  "'$\x7blevelname\x7d:$\x7bname\x7d:$\x7bmessage\x7d')\x7d"

/-- The level of a name in any case, or of another name where there is none. Two names are those of
other things that belong to logging, and of no level. -/
def levelOf (name : Option String) (otherwise : String) : Except Fault Nat :=
  match Text.upper ((name.filter (· ≠ "")).getD otherwise) with
  | "BASIC_FORMAT" => .error (.unknownLevel basicFormat)
  | "_STYLES" => .error (.notALevel shownStyles)
  | name => .ok ((levels.lookup name).getD ordinary)

def quietLoggers : List String := ["uvicorn.access", "httpcore", "httpx"]

/-- Whether a logger is another one, or below it. -/
def isWithin (logger other : String) : Bool :=
  logger == other || logger.startsWith (other ++ ".")

/-- The level below which a logger drops records. -/
def threshold (level : Nat) (logger : String) : Nat :=
  if quietLoggers.any (isWithin logger) then quiet else level

structure Record where
  logger : String
  level : Nat
  message : String
  arguments : List Json

def levelWord (level : Nat) : String :=
  match level with
  | 10 => "debug"
  | 20 => "info"
  | 30 => "warning"
  | 40 => "error"
  | 50 => "critical"
  | level => s!"level {String.ofList (Text.digits level)}"

/-- The fields of a line that are not for a run to bind. -/
def ownFields : List String := ["event", "level", "logger", "timestamp", "stack_info", "exc_info",
  "_record", "_from_structlog"]

/-- The name of the logger above all others, which has no name of its own. -/
def rootLogger : String := "root"

/-- The bound fields that a line shows. -/
def bound (context : Fields) : Fields := context.filter fun field => !ownFields.contains field.1

/-- The line for a record, without its time. -/
def line? (level : Nat) (context : Fields) (record : Record) : Option Json :=
  if record.level = 0 ∨ record.level < threshold level record.logger then none
  else
    (fill? record.message record.arguments).map fun message =>
      .obj ([("event", .str message), ("level", .str (levelWord record.level)),
        ("logger", .str (if record.logger = "" then rootLogger else record.logger))] ++
        bound context)

/-- The lines for some records, where they are lines of JSON. -/
def lines? (level : Nat) (context : Fields) (records : List Record) : Option (List Json) :=
  if level = debugging then none else some (records.filterMap (line? level context))

end ChainFlow.Log

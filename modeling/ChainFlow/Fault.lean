import ChainFlow.Decimal.Numeral
import ChainFlow.Http.Url
import ChainFlow.Json.Reader
import ChainFlow.Node.Basic
import ChainFlow.Schema.Reading
import ChainFlow.Text.Encoding
import ChainFlow.Text.Whole

/-!
# Faults

Everything that can stop an operation, by its cause. `Fault.message` gives the words; where the
cause carries words of its own, as an answer of the gateway does, they are part of it.
-/

namespace ChainFlow

inductive Unrunnable where
  | noNodes
  | noStart
  | noAction
  deriving DecidableEq

def Unrunnable.message : Unrunnable → String
  | noNodes => "Flow must have at least one node"
  | noStart => "Flow must have a start node"
  | noAction => "Flow must have at least one action node (bridge, transfer, or execute)"

def Unrunnable.kind : Unrunnable → String
  | noStart => "missing_entry"
  | _ => "no_action_nodes"

inductive StepState where
  | pending
  | fused
  | done
  deriving DecidableEq, Repr

def StepState.word : StepState → String
  | pending => "pending"
  | fused => "fused_with_next"
  | done => "done"

inductive GatewayFault where
  | unreachable (reason : String)
  /-- The answer has a status other than 200 and 201. -/
  | refused (method path body : String) (status : Int)
  | notJson (path : String) (status : Int)
  | notObject (path : String) (answer : Json)
  | noSession

namespace GatewayFault

def message : GatewayFault → String
  | unreachable reason => s!"Request failed: {reason}"
  | refused method path body _ => s!"{method} {path} failed: {body}"
  | notJson path _ => s!"Invalid JSON from {path}"
  | notObject path answer => s!"Unexpected response from {path}: {answer.shown}"
  | noSession => "Session response did not include a sessionId"

def status? : GatewayFault → Option Int
  | refused _ _ _ status => some status
  | notJson _ status => some status
  | _ => none

end GatewayFault

inductive Raiser where
  | flow
  | backend
  | session
  | gateway
  | runtime
  | value
  | other
  deriving DecidableEq

inductive Fault where
  | unrunnable (cause : Unrunnable)
  /-- A stored drawing breaks a structural rule; it may lack a start as well. -/
  | illFormed (issues : List String) (hasStart : Bool)
  | unsupported (action : Action)
  | noVault (action : Action) (chain : ChainId)
  | notConnected
  | gateway (fault : GatewayFault)
  | badAmount (amount : Json)
  | arithmetic (signal : Decimal.Signal)
  | unreadable (record : String) (issues : List Schema.Issue)
  | unknownAction (word : String)
  | badChainId (text : String)
  | tooManyDigits (digits : Nat)
  | badTransition (node : String) (current next : StepState)
  | unknownNode (node : String)
  | noTemplate (id : String)
  | noFlow
  | notJson (message : String)
  /-- A text has a container inside more others than are read. -/
  | tooDeep (container : Json.Container)
  /-- A value is nested too deep to be written. -/
  | tooNested
  | noFile (name : String)
  | isDirectory (name : String)
  | notAFolder (name : String)
  | nameTooLong (name : String)
  /-- A text that is given to the system holds the character that ends a text there. -/
  | nullInName
  | notUtf8 (found : Text.Unencodable)
  | notAnObject (value : Json)
  | notATable (value : Json)
  | notAList (value : Json)
  /-- A value that is no scalar was looked up in a table. -/
  | notAKey (value : Json)
  /-- A time without end was reported. -/
  | endless
  | badHeader (value : Json)
  | notFinite
  | badUrl (defect : Http.UrlDefect)
  | badName (defect : DomainName.Defect)
  | noType (address : String)
  | unknownLevel (word : String)
  /-- What was to be a level is neither a number nor a word; it is given as it is shown. -/
  | notALevel (shown : String)
  /-- A value came under the name of an argument that an operation had already. -/
  | givenTwice (operation argument : String)
  /-- What no variable of the environment can be named; the empty name is one such. -/
  | badVariable (name : String)
  /-- A setting that is written as JSON cannot be read. -/
  | badSetting (name source : String)
  | raised (raiser : Raiser) (message : String)

namespace Fault

def unsupportedMessage (action : Action) : String :=
  s!"{action.word.capitalize} action is not yet implemented"

def signalMessage : Decimal.Signal → String
  | .malformed => "[<class 'decimal.ConversionSyntax'>]"
  | .invalid => "[<class 'decimal.InvalidOperation'>]"
  | .overflow => "[<class 'decimal.Overflow'>]"

def typeName : Json → String
  | .null => "NoneType"
  | .bool _ => "bool"
  | .int _ => "int"
  | .float _ => "float"
  | .str _ => "str"
  | .arr _ => "list"
  | .obj _ => "dict"

/-- The words for a text in a header that has characters outside ASCII: they name the first run of
such characters. -/
def headerMessage (text : List Char) : String :=
  let ascii (c : Char) : Bool := c.toNat < 128
  let first := (text.takeWhile ascii).length
  let run := (text.drop first).takeWhile (!ascii ·)
  let place := String.ofList (Text.digits first)
  match run with
  | [c] =>
    let code := String.ofList (Text.codeEscape c)
    s!"'ascii' codec can't encode character '{code}' in position {place}: ordinal not in range(128)"
  | run =>
    let last := String.ofList (Text.digits (first + run.length - 1))
    s!"'ascii' codec can't encode characters in position {place}-{last}: ordinal not in range(128)"

def encodingMessage (found : Text.Unencodable) : String :=
  let place (place : Nat) : String := String.ofList (Text.digits place)
  if found.length = 1 then
    let code := String.ofList (Text.codeEscape found.first)
    s!"'utf-8' codec can't encode character '{code}' in position {place found.place}: surrogates not allowed"
  else
    let last := place (found.place + found.length - 1)
    s!"'utf-8' codec can't encode characters in position {place found.place}-{last}: surrogates not allowed"

/-- How many characters of a text that is no chain id are shown. -/
def shownLimit : Nat := 200

def message : Fault → String
  | unrunnable cause => cause.message
  | illFormed issues _ => issues.headD ""
  | unsupported action => unsupportedMessage action
  | noVault action chain => s!"No {action.word} contract configured on {ChainId.name chain}"
  | notConnected => "Nexus SDK not initialized"
  | gateway fault => fault.message
  | badAmount amount => s!"Invalid amount: {amount.shown}"
  | arithmetic signal => signalMessage signal
  | unreadable record issues => s!"{Schema.summary issues} for {record}"
  | unknownAction word => s!"{(Json.str word).shown} is not a valid ExecuteAction"
  | badChainId text =>
    s!"invalid literal for int() with base 10: {((Json.str text).shown.take shownLimit).toString}"
  | tooManyDigits digits => Text.digitLimitMessage digits
  | badTransition node current next =>
    s!"Node {node} cannot move from {current.word} to {next.word}"
  | unknownNode node => (Json.str node).shown
  | noTemplate id => s!"Template not found: {id}"
  | noFlow => "Provide a flow file or --template"
  | notJson message => message
  | tooDeep container => (Json.Defect.depth container).message
  | tooNested => "Circular reference detected (depth exceeded)"
  | noFile name => s!"[Errno 2] No such file or directory: {(Json.str name).shown}"
  | isDirectory name => s!"[Errno 21] Is a directory: {(Json.str name).shown}"
  | notAFolder name => s!"[Errno 20] Not a directory: {(Json.str name).shown}"
  | nameTooLong name => s!"[Errno 36] File name too long: {(Json.str name).shown}"
  | nullInName => "embedded null byte"
  | notUtf8 found => encodingMessage found
  | notAnObject value => s!"'{typeName value}' object has no attribute 'get'"
  | notATable value => s!"'{typeName value}' object has no attribute 'items'"
  | notAList value => s!"'{typeName value}' object is not iterable"
  | notAKey value => s!"unhashable type: '{typeName value}'"
  | endless => "cannot convert float infinity to integer"
  | badHeader (.str text) => headerMessage text.toList
  | badHeader value => s!"Header value must be str or bytes, not <class '{typeName value}'>"
  | notFinite => "Out of range float values are not JSON compliant"
  | badUrl defect => defect.message
  | badName defect => defect.message
  | noType address =>
    let address := if address.endsWith "#" then (address.dropEnd 1).toString else address
    s!"unknown url type: {(Json.str address).shown}"
  | unknownLevel word => s!"Unknown level: {(Json.str word).shown}"
  | notALevel shown => s!"Level not an integer or a valid string: {shown}"
  | givenTwice operation argument =>
    s!"{operation}() got multiple values for argument '{argument}'"
  | badVariable name =>
    if name = "" then "[Errno 22] Invalid argument" else "illegal environment variable name"
  | badSetting name source => s!"error parsing value for field \"{name}\" from source \"{source}\""
  | raised _ message => message

/-- The word for the kind of failure that a raiser reports; only those that belong to flows have
one. -/
def kindOf? : Raiser → Option String
  | .flow => some "uncaught"
  | .backend | .session | .gateway => some "backend_failure"
  | .runtime | .value | .other => none

/-- The word for the kind of failure that a fault is; only those that belong to flows have one. -/
def kind? : Fault → Option String
  | unrunnable cause => some cause.kind
  | illFormed _ hasStart => some (if hasStart then "unknown_node_kind" else "missing_entry")
  | unsupported _ => some "unsupported_action"
  | noVault .. => some "uncaught"
  | notConnected | gateway _ => some "backend_failure"
  | raised raiser _ => kindOf? raiser
  | _ => none

def issues? : Fault → Option (List String)
  | unrunnable cause => some [cause.message]
  | illFormed issues _ => some issues
  | _ => none

/-- The words for a fault, or others if it has none. -/
def messageOr (fault : Fault) (otherwise : String) : String :=
  if fault.message = "" then otherwise else fault.message

end Fault

/-- Fields that an operation sets beside its own arguments. None of them may have the name of one. -/
def besides (operation : String) (arguments : List String) (fields : Fields) : Except Fault Fields :=
  match fields.find? fun field => arguments.contains field.1 with
  | some (name, _) => .error (.givenTwice operation name)
  | none => .ok fields

/-- The items that a value holds: those of a list, the names of an object's fields, or the characters
of a text. -/
def itemsOf : Json → Except Fault (List Json)
  | .arr items => .ok items
  | .obj fields => .ok (fields.map fun field => .str field.1)
  | .str text => .ok (text.toList.map fun c => .str (String.singleton c))
  | value => .error (.notAList value)

def ofUrl {α : Type} : Except Http.UrlDefect α → Except Fault α
  | .ok value => .ok value
  | .error (.unencodable c) => .error (.notUtf8 ⟨c, 0, 1⟩)
  | .error defect => .error (.badUrl defect)

def ofSignal {α : Type} : Except Decimal.Signal α → Except Fault α
  | .ok value => .ok value
  | .error signal => .error (.arithmetic signal)

def ofMisread (text : List Char) (misread : Json.Misread) : Fault :=
  match misread.defect with
  | .digits count => .tooManyDigits count
  | .depth container => .tooDeep container
  | _ => .notJson (misread.message text)

def ofReading {α : Type} (record : String) : Schema.Reading α → Except Fault α
  | .ok value => .ok value
  | .refused issues => .error (.unreadable record issues)

end ChainFlow

import ChainFlow.Fault
import ChainFlow.Json.Reader
import ChainFlow.Schema.Record
import ChainFlow.Settings.Dotenv
import ChainFlow.Text.Path
import ChainFlow.Vault

/-!
# Settings

What can be configured: each setting has a default and can be set by a variable of its name in any
case, from the environment or from a file of variables. The environment goes first. The addresses of
contracts are written as JSON; where both sources have them, the two tables are laid over each
other.
-/

namespace ChainFlow

open Schema

/-- Addresses by the words for actions and the texts of chain ids. -/
abbrev ContractTable := List (String × List (String × String))

structure Settings where
  host : String
  port : Int
  logLevel : String
  gatewayUrl : String
  apiKey : String
  network : String
  /-- In seconds. -/
  timeout : Int
  /-- In seconds. -/
  stepDelay : Binary64
  /-- In seconds. -/
  latency : Binary64
  successRate : Binary64
  bridgeCost : Decimal
  explorer : String
  contracts : ContractTable
  templatesPath : String

namespace Settings

def standardContracts : ContractTable :=
  Vaults.standard.map fun (action, chains) =>
    (action.word, chains.map fun (chain, address) => (ChainId.text chain, address))

/-- The settings where nothing is set; templates are kept below a directory. -/
def standard (base : String) : Settings where
  host := "127.0.0.1"
  port := 8000
  logLevel := "INFO"
  gatewayUrl := "http://127.0.0.1:8787"
  apiKey := ""
  network := "testnet"
  timeout := 30
  stepDelay := .ofInt 1
  latency := .ofInt 2
  successRate := .ofRatio false 98 100
  bridgeCost := .finite false 25 (-1)
  explorer := "https://sepolia.etherscan.io"
  contracts := standardContracts
  templatesPath := s!"{base}/data/templates.json"

def notNegative (value : Json) : Reading Binary64 :=
  (float value).andThen fun number =>
    match number with
    | .nan => .ok .nan
    | number => if number.isNonnegative then .ok number else .problem .numberBelowZero

def decimal (value : Json) : Reading Decimal :=
  match Decimal.parse value.plain.toList with
  | .error _ => .problem .decimal
  | .ok (.finite negative coefficient exponent) => .ok (.finite negative coefficient exponent)
  | .ok _ => .problem .finite

/-- A file's path in its plainest form. -/
def path (value : Json) : Reading String :=
  (text value).map fun path => String.ofList (Text.plainPath path.toList)

/-- Values under names, each read alike and placed under its name. -/
def table {α : Type} (read : Json → Reading α) (value : Json) : Reading (List (String × α)) :=
  (dictionary value).andThen entries
where
  entries : Fields → Reading (List (String × α))
    | [] => .ok []
    | (name, value) :: rest =>
      (fun value rest => (name, value) :: rest)
        <$> (read value).under (.field name) <*> entries rest

def read (base : String) (fields : Fields) : Reading Settings :=
  let standard := standard base
  let setting {α : Type} (name : String) (default : α) (read : Json → Reading α) : Reading α :=
    withDefault fields (.same name) default read
  Settings.mk
    <$> setting "host" standard.host text
    <*> setting "port" standard.port integer
    <*> setting "log_level" standard.logLevel text
    <*> setting "nexus_base_url" standard.gatewayUrl text
    <*> setting "nexus_api_key" standard.apiKey text
    <*> setting "nexus_network" standard.network text
    <*> setting "request_timeout_seconds" standard.timeout integer
    <*> setting "step_delay_seconds" standard.stepDelay notNegative
    <*> setting "mock_execution_latency_seconds" standard.latency notNegative
    <*> setting "simulation_success_rate" standard.successRate float
    <*> setting "bridge_base_cost" standard.bridgeCost decimal
    <*> setting "default_explorer_url" standard.explorer text
    <*> setting "action_contracts" standard.contracts (table (table text))
    <*> setting "templates_path" standard.templatesPath path

def names : List String := ["host", "port", "log_level", "nexus_base_url", "nexus_api_key",
  "nexus_network", "request_timeout_seconds", "step_delay_seconds",
  "mock_execution_latency_seconds", "simulation_success_rate", "bridge_base_cost",
  "default_explorer_url", "action_contracts", "templates_path"]

def jsonName : String := "action_contracts"

/-- A letter of a name in lower case. Of all that is no ASCII letter only the Kelvin sign has an ASCII
letter for its lower case, and the names of settings are in ASCII. -/
def lowerLetter (c : Char) : Char := if c = '\u212A' then 'k' else c.toLower

/-- The value of a variable, whatever the case of its name; of several the last. -/
def valueOf? (bindings : List Dotenv.Binding) (name : String) : Option String :=
  (bindings.reverse.find? fun entry => entry.1.map lowerLetter == name).bind (·.2)

/-- What one source sets. -/
def ofVariables (source : String) (bindings : List Dotenv.Binding) :
    List String → Except Fault Fields
  | [] => .ok []
  | name :: rest =>
    match valueOf? bindings name with
    | none => ofVariables source bindings rest
    | some value =>
      if name = jsonName then
        match Json.parse value.toList with
        | .error ⟨.depth container, _⟩ => .error (.tooDeep container)
        | .error _ => .error (.badSetting name source)
        | .ok .null => ofVariables source bindings rest
        | .ok value => (ofVariables source bindings rest).map ((name, value) :: ·)
      else (ofVariables source bindings rest).map ((name, .str value) :: ·)

mutual

/-- A value laid over another: an object over an object field by field, otherwise in its place. -/
def laidOver (lower : Option Json) : Json → Json
  | .obj fields =>
    match lower with
    | some (.obj under) => .obj (overlay under fields)
    | _ => .obj fields
  | value => value

def overlay (under : Fields) : List (String × Json) → Fields
  | [] => under
  | (name, value) :: rest =>
    overlay (Fields.put under name (laidOver (Fields.get? under name) value)) rest

end

def checkKept (text : String) : Except Fault Unit :=
  match Text.unencodable? Text.standsForByte text.toList with
  | some found => .error (.notUtf8 found)
  | none => .ok ()

def checkVariable (name value : String) : Except Fault Unit := do
  checkKept name
  checkKept value
  if name.contains '\x00' || value.contains '\x00' then .error .nullInName
  if name = "" || name.contains '=' then .error (.badVariable name)

def load (base : String) (environment : List (String × String)) (file : Option String) :
    Except Fault Settings := do
  environment.forM fun (name, value) => checkVariable name value
  let first ← ofVariables "EnvSettingsSource"
    (environment.map fun (name, value) => (name, some value)) names
  let second ← match file with
    | none => .ok []
    | some text => ofVariables "DotEnvSettingsSource" (Dotenv.read environment text) names
  ofReading "Settings" (read base (overlay second first))

def dump (settings : Settings) : Json := .obj [
  ("host", .str settings.host), ("port", .int settings.port), ("log_level", .str settings.logLevel),
  ("nexus_base_url", .str settings.gatewayUrl), ("nexus_api_key", .str settings.apiKey),
  ("nexus_network", .str settings.network), ("request_timeout_seconds", .int settings.timeout),
  ("step_delay_seconds", .float settings.stepDelay),
  ("mock_execution_latency_seconds", .float settings.latency),
  ("simulation_success_rate", .float settings.successRate),
  ("bridge_base_cost", .str settings.bridgeCost.toText),
  ("default_explorer_url", .str settings.explorer),
  ("action_contracts", .obj (settings.contracts.map fun (word, chains) =>
    (word, .obj (chains.map fun (chain, address) => (chain, .str address))))),
  ("templates_path", .str settings.templatesPath)]

/-- Whether requests to the gateway carry a key. -/
def hasApiKey (settings : Settings) : Bool := settings.apiKey ≠ ""

end Settings

end ChainFlow

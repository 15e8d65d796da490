import ChainFlow.CommandLine.Program
import ChainFlow.Settings.Wiring
import Std.Time.DateTime.Timestamp

/-!
# The program at a terminal

Gathers what the program works with: settings from the environment and from the file `.env`, the
files that the command line names, the saved templates, the time and a seed. It does not reach a
gateway, so every session that is asked for fails.
-/

namespace ChainFlow.CommandLine

def readText? (name : String) : IO (Option String) := do
  try return some (← IO.FS.readFile name) catch _ => return none

/-- The variables of the environment that are settings, in small and in capital letters. -/
def environment : IO (List (String × String)) := do
  let names := Settings.names.flatMap fun name => [name, name.toUpper]
  names.filterMapM fun name => return (← IO.getEnv name).map (name, ·)

def readFiles (words : List String) : IO (List (String × String)) :=
  words.filterMapM fun word => do
    let name := String.ofList (Text.plainPath word.toList)
    return (← readText? name).map (name, ·)

/-- A source of numbers after some of them have been drawn. -/
def generatorAfter (seed : Nat) : Nat → StdGen
  | 0 => mkStdGen seed
  | count + 1 => (stdNext (generatorAfter seed count)).2

/-- The numbers that a seed stands for, all from zero up to one. -/
def numberAt (seed index : Nat) : Binary64 :=
  let generator := generatorAfter seed index
  let (least, most) := stdRange
  .ofRatio false ((stdNext generator).1 - least) (most - least + 1)

def unreached : Http.Transport Unit := fun _ state =>
  (⟨.unreachable "no gateway can be reached from here", 0⟩, state)

def assemble (settings : Settings) (seed : Nat) (files : List (String × String))
    (templates : Option String) : Except Fault (Program Unit) :=
  (settings.engine none (numberAt seed)).map fun (engine : Engine (Client Unit)) => {
    gateway := ⟨settings.gatewayConfig, unreached⟩
    engine := fun backend => { engine with backend }
    delay := settings.delay
    successRate := settings.successRate
    logLevel := settings.logLevel
    folder := ⟨files⟩
    store := ⟨templates, 0⟩ }

def stop (fault : Fault) : IO UInt32 := do
  IO.eprintln fault.message
  return 1

def perform (words : List String) : IO UInt32 := do
  match Settings.load "." (← environment) (← readText? ".env") with
  | .error fault => stop fault
  | .ok settings =>
    let seed ← IO.rand 0 (twoTo 32)
    let templates ← readText? settings.templatesPath
    match assemble settings seed (← readFiles words) templates with
    | .error fault => stop fault
    | .ok program =>
      let now ← Std.Time.Timestamp.now
      let world : World (Client Unit) :=
        .fresh now.toMillisecondsSinceUnixEpoch.val (Gateway.stranger ())
      let ending := program.run words { world with issued := seed }
      IO.print ending.output
      match ending.fault with
      | some fault => stop fault
      | none => return ending.exit.toUInt32

end ChainFlow.CommandLine

def main (words : List String) : IO UInt32 := ChainFlow.CommandLine.perform words

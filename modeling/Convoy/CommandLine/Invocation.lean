import Convoy.CommandLine.Arguments
import Convoy.Duration
import Convoy.Supervisor

/-!
# Invocations

What the words of the main command line ask for. Some options may stand before or after the name of
the command; the later place wins.
-/

namespace Convoy.CommandLine

/-- What is to be done. -/
inductive Task where
  /-- Run a command once targets accept connections. -/
  | waitFor (targets : List String) (timeout interval : Duration) (command : List String)
  | plan (json : Bool)
  | check
  | render (output : Option String)
  /-- Start everything; local processes are reached at one host. -/
  | up (maxRestarts : Nat) (localProcesses : Bool)
  deriving DecidableEq

/-- A whole command line. -/
structure Invocation where
  task : Task
  /-- The file that describes the topology. -/
  topology : Option String
  profile : Profile
  deriving DecidableEq

namespace Invocation

/-- A number that fits into some bits. -/
def number? (bits : Nat) (text : String) : Option Nat :=
  (Text.unsigned? text.toList).filter (· < Nat.pow 2 bits)

/-- A number that fits into some bits, where zero may have a minus sign. -/
def shortNumber? (bits : Nat) (text : String) : Option Nat :=
  match text.toList with
  | '-' :: digits => if !digits.isEmpty && digits.all (· == '0') then some 0 else none
  | _ => number? bits text

def isDuration (text : String) : Bool :=
  match Duration.read text with
  | .ok _ => true
  | .error _ => false

/-- The options that every command takes. -/
def common : List OptionSpec :=
  [⟨"verbose", some 'v', false, none, fun _ => true⟩,
    ⟨"topology", none, true, some "STACKGATE_TOPOLOGY", (· != "")⟩,
    ⟨"profile", none, true, some "STACKGATE_PROFILE", fun text => (Profile.ofName? text).isSome⟩]

def main : Grammar where
  options := common
  takesWords := false
  takesRest := false
  hasCommands := true
  tellsVersion := true

/-- A command without a version of its own. -/
def command (options : List OptionSpec) (takesWords : Bool) : Grammar where
  options := options ++ common
  takesWords := takesWords
  takesRest := takesWords
  hasCommands := false
  tellsVersion := false

/-- The commands by their names. -/
def commands : List (String × Grammar) :=
  [("wait-for", command
      [⟨"timeout", none, true, none, isDuration⟩, ⟨"interval", none, true, none, isDuration⟩] true),
    ("plan", command [⟨"json", none, false, none, fun _ => true⟩] false),
    ("check", command [] false),
    ("render", command [⟨"output", some 'o', true, none, (· != "")⟩] false),
    ("up", command
      [⟨"max-restarts", none, true, none, fun text => (shortNumber? 32 text).isSome⟩,
        ⟨"local", none, false, none, fun _ => true⟩] false)]

/-- The duration that an option gives, which has been checked. -/
def durationOf (given : Given) (name : String) (standard : Duration) : Duration :=
  match (given.value? name).map Duration.read with
  | some (.ok duration) => duration
  | _ => standard

/-- What a command asks for. -/
def taskOf? (name : String) (given : Given) : Option Task :=
  match name with
  | "wait-for" =>
    if given.words.isEmpty then none
    else
      some (.waitFor given.words (durationOf given "timeout" Gate.standardTimeout)
        (durationOf given "interval" Gate.standardInterval) given.rest)
  | "plan" => some (.plan (given.has "json"))
  | "check" => some .check
  | "render" => some (.render (given.value? "output"))
  | "up" =>
    some (.up (((given.value? "max-restarts").bind (shortNumber? 32)).getD
      SupervisorOptions.standard.maxRestarts) (given.has "local"))
  | _ => none

/-- Asking for help about a command. -/
def helpFor (words : List String) : Refusal :=
  match words with
  | [] => .help
  | [name] => if name == "help" || (commands.lookup name).isSome then .help else .misuse
  | _ => .misuse

/-- Reads a whole command line. -/
def read (environment : Environment) (words : List String) : Except Refusal Invocation := do
  let outer ← main.read words
  let (name, left) ←
    match outer.command with
    | some found => .ok found
    | none => .error .misuse
  if name == "help" then throw (helpFor left)
  let grammar ←
    match commands.lookup name with
    | some grammar => .ok grammar
    | none => .error .misuse
  let inner ← grammar.read left
  let innerVariables ← grammar.complete environment inner
  let outerVariables ← main.complete environment outer
  let value? (option : String) : Option String :=
    (inner.value? option).or <| (outer.value? option).or <|
      (innerVariables.lookup option).or (outerVariables.lookup option)
  match taskOf? name inner with
  | none => throw .misuse
  | some task =>
    return {
      task := task
      topology := value? "topology"
      profile := ((value? "profile").bind Profile.ofName?).getD .evaluation }

end Invocation

end Convoy.CommandLine

import Convoy.Dictionary
import Convoy.Duration
import Convoy.Shell
import Convoy.Text.Blank

/-!
# Programs

What a program does once it has been started: how long it runs, how it ends, what it prints and
which files it creates. Only the plain tools that start and stop things in a stack are known, and
the shell that combines them.
-/

namespace Convoy

/-- What a program does. -/
structure Deed where
  /-- When after its start it ends, and with which status; a killed program has none. -/
  exit : Option (Duration × Option Int)
  output : String
  touched : List String
  deriving DecidableEq

namespace Program

/-- The names under which programs are found. -/
def installed : List String :=
  ["sh", "bash", "dash", "true", "false", "sleep", "test", "[", "echo", "touch", "kill"]

/-- The directories in which programs are found. -/
def directories : List String := ["/bin/", "/usr/bin/"]

/-- The tool that a program text names, alone or by its path. -/
def find? (program : String) : Option String :=
  if installed.contains program then some program
  else
    directories.findSome? fun directory =>
      (Text.stripStart? directory.toList program.toList).bind fun rest =>
        let name := String.ofList rest
        if installed.contains name then some name else none

/-- A deed that is over at once. -/
def instant (code : Int) : Deed := ⟨some (.zero, some code), "", []⟩

/-- The nanoseconds of a decimal number of seconds; what is finer is dropped. -/
def decimalNanos? (digits : List Char) : Option Nat :=
  let (whole, fraction) := (Text.splitFirst? '.' digits).getD (digits, [])
  let nanos := fraction.take 9 ++ List.replicate (9 - fraction.length) '0'
  if (whole ++ fraction).isEmpty || !(whole ++ fraction).all Char.isDigit then none
  else (String.ofList (whole ++ nanos)).toNat?

/-- A number of seconds, minutes, hours or days. -/
def span? (text : String) : Option Duration :=
  let isNumeral (character : Char) : Bool := character.isDigit || character == '.'
  let scale? : Option Nat :=
    match text.toList.dropWhile isNumeral with
    | [] | ['s'] => some 1
    | ['m'] => some 60
    | ['h'] => some 3600
    | ['d'] => some 86400
    | _ => none
  match scale?, decimalNanos? (text.toList.takeWhile isNumeral) with
  | some scale, some nanos => some ⟨nanos * scale⟩
  | _, _ => none

/-- Sleeps for the sum of some spans. -/
def sleep (arguments : List String) : Deed :=
  match arguments.mapM span? with
  | some (first :: rest) => ⟨some (rest.foldl (· + ·) first, some 0), "", []⟩
  | some [] => instant 1
  | none => if arguments = ["infinity"] then ⟨none, "", []⟩ else instant 1

/-- Whether a condition holds, or nothing if it is none. -/
def condition? : List String → Option Bool
  | [] => some false
  | [text] => some (text != "")
  | ["!", text] => some (text == "")
  | ["-n", text] => some (text != "")
  | ["-z", text] => some (text == "")
  | [left, "=", right] => some (left == right)
  | [left, "!=", right] => some (left != right)
  | [left, operator, right] =>
    match left.toInt?, right.toInt? with
    | some first, some second =>
      match operator with
      | "-eq" => some (first == second)
      | "-ne" => some (first != second)
      | "-lt" => some (first < second)
      | "-le" => some (first ≤ second)
      | "-gt" => some (second < first)
      | "-ge" => some (second ≤ first)
      | _ => none
    | _, _ => none
  | _ => none

/-- The status of a test. -/
def test (arguments : List String) : Deed :=
  match condition? arguments with
  | some true => instant 0
  | some false => instant 1
  | none => instant 2

/-- How a shell calls its own process. -/
def ownProcess : String := "self"

/-- The signals that leave a process as it is. -/
def harmless : List String := ["-0", "-CHLD", "-CONT", "-17", "-18"]

/-- Whether a command kills the process that gives it. -/
def killsItself (arguments : List String) : Bool :=
  arguments.contains ownProcess && !arguments.any harmless.contains

/-- A simple tool with its arguments. -/
def tool (name : String) (arguments : List String) : Deed :=
  match name with
  | "true" | ":" => instant 0
  | "false" => instant 1
  | "sleep" => sleep arguments
  | "test" => test arguments
  | "[" => if arguments.getLast? = some "]" then test arguments.dropLast else instant 2
  | "touch" => { instant 0 with touched := arguments.filter (!·.startsWith "-") }
  | "echo" =>
    match arguments with
    | "-n" :: rest => { instant 0 with output := " ".intercalate rest }
    | _ => { instant 0 with output := " ".intercalate arguments ++ "\n" }
  | _ => instant 127

/-! ## The shell -/

/-- The fields of a word that is being expanded: those that are complete, the last first, and the
one that has begun. -/
structure Fields where
  complete : List String
  current : Option String

namespace Fields

def add (fields : Fields) (text : String) : Fields :=
  { fields with current := some (fields.current.getD "" ++ text) }

def close (fields : Fields) : Fields :=
  match fields.current with
  | none => fields
  | some text => ⟨text :: fields.complete, none⟩

/-- Adds text that is split at blanks. -/
def split (fields : Fields) (text : String) : Fields :=
  text.toList.foldl (fun fields character =>
    if [' ', '\t', '\n'].contains character then fields.close
    else fields.add (String.singleton character)) fields

end Fields

/-- What a shell knows while it runs. -/
structure ShellState where
  assignments : Dictionary String
  status : Int
  elapsed : Duration
  output : String
  touched : List String

namespace ShellState

/-- The value of a parameter. -/
def value (state : ShellState) (name : String) : String :=
  match name with
  | "?" => toString state.status
  | "$" => ownProcess
  | "#" => "0"
  | _ => (state.assignments.get? name).getD ""

/-- The fields that a word stands for. -/
def expand (state : ShellState) (pieces : List Shell.Piece) : List String :=
  (pieces.foldl (fun (fields : Fields) piece =>
    match piece with
    | .literal text => fields.add text
    | .special character => fields.add (String.singleton character)
    | .parameter name true => fields.add (state.value name)
    | .parameter name false => fields.split (state.value name)) ⟨[], none⟩).close.complete.reverse

/-- The deed of a shell that ends now. -/
def ended (state : ShellState) (code : Option Int) : Deed :=
  ⟨some (state.elapsed, code), state.output, state.touched⟩

/-- The state after a command; if the command never ends, neither does the shell. -/
def follow (state : ShellState) (deed : Deed) : Except Deed ShellState :=
  let output := state.output ++ deed.output
  let touched := state.touched ++ deed.touched
  match deed.exit with
  | none => .error ⟨none, output, touched⟩
  | some (duration, code) =>
    .ok { state with
      status := code.getD 137
      elapsed := state.elapsed + duration
      output := output
      touched := touched }

/-- The status that a shell ends with, from the argument of `exit`. -/
def exitCode (state : ShellState) : List String → Int
  | [] => state.status
  | text :: _ =>
    match text.toNat? with
    | some code => ((code % 256 : Nat) : Int)
    | none => 2

/-- The variable and the value of an assignment. -/
def assignment? (word : List Shell.Piece) (field : String) : Option (String × String) :=
  match word with
  | .literal text :: _ =>
    match Text.splitFirst? '=' text.toList with
    | some (first :: rest, _) =>
      if Shell.Reader.isNameStart first && rest.all Shell.Reader.isNameChar then
        some (String.ofList (first :: rest), String.ofList (field.toList.drop (rest.length + 2)))
      else none
    | _ => none
  | _ => none

end ShellState

mutual

/-- What a program does with its arguments, if shells are nested no deeper than the given number. -/
def run : Nat → Dictionary String → String → List String → Deed
  | 0, _, _, _ => instant 126
  | depth + 1, assignments, name, arguments =>
    if ["sh", "bash", "dash"].contains name then
      match arguments with
      | "-c" :: script :: _ =>
        match Shell.commands script with
        | none => instant 2
        | some commands => runShell depth ⟨assignments, 0, .zero, "", []⟩ commands
      | _ => instant 0
    else tool name arguments
termination_by depth => (depth, 0)

/-- What a shell does with the commands that are left. -/
def runShell : Nat → ShellState → List Shell.Command → Deed
  | _, state, [] => state.ended (some state.status)
  | depth, state, command :: rest =>
    let skipped :=
      match command.connector with
      | .always => false
      | .onSuccess => state.status != 0
      | .onFailure => state.status == 0
    if skipped then runShell depth state rest
    else
      match command.words.flatMap state.expand with
      | [] => runShell depth { state with status := 0 } rest
      | "exit" :: arguments => state.ended (some (state.exitCode arguments))
      | "kill" :: arguments =>
        if killsItself arguments then state.ended none
        else runShell depth { state with status := 1 } rest
      | "exec" :: name :: arguments =>
        match state.follow (match find? name with
          | some found => run depth state.assignments found arguments
          | none => instant 127) with
        | .ok after => after.ended (some after.status)
        | .error deed => deed
      | name :: arguments =>
        match command.words.head?.bind (ShellState.assignment? · name) with
        | some (variableName, value) =>
          runShell depth
            { state with
              assignments := state.assignments.insert variableName value
              status := 0 } rest
        | none =>
          match state.follow (if name == ":" then instant 0 else
            match find? name with
            | some found => run depth state.assignments found arguments
            | none => instant 127) with
          | .ok after => runShell depth after rest
          | .error deed => deed
termination_by depth _ commands => (depth, commands.length)

end

/-- How deep shells may be nested. -/
def depthLimit : Nat := 16

/-- What a command line does, if its program is found. -/
def execute? (assignments : Dictionary String) : List String → Option Deed
  | [] => none
  | program :: arguments =>
    (find? program).map fun name => run depthLimit assignments name arguments

end Program

end Convoy

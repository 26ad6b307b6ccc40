import Convoy.CommandLine.Initialization
import Convoy.CommandLine.Run

/-!
# The programs

The supervisor and the initializer as programs. What a command may look at is read first: the
variables by their names, and what is found under the paths that the command line names. All else is
decided by `World.execute` and `InitializerOptions.execute`, and what they leave behind is then
printed and written. The programs of a stack are followed in virtual time, and nothing is reached
over a network.
-/

namespace Convoy.CommandLine

/-- The variables that have a value, with their values. -/
def readVariables (names : List String) : IO (Dictionary String) :=
  names.foldlM (fun values name => do
    match ← IO.getEnv name with
    | some value => return values.insert name value
    | none => return values) .empty

/-- What is found under a path. What cannot be read is taken for missing. -/
def readEntry (path : String) : IO (Option FileEntry) := do
  try
    return some (.file (← IO.FS.readFile path))
  catch error =>
    match error with
    | .inappropriateType .. => return some .directory
    | _ => return none

/-- What is found under each of some paths. -/
def readEntries (paths : List String) : IO (String → Option FileEntry) := do
  let entries ← paths.mapM fun path => return (path, ← readEntry path)
  return fun path => (entries.lookup path).bind id

namespace Grammar

/-- The variables that stand in for options. -/
def variableNames (grammar : Grammar) : List String := grammar.options.filterMap (·.variableName)

end Grammar

namespace Invocation

/-- The paths that an invocation may look at. -/
def paths (invocation : Invocation) : List String :=
  invocation.topology.toList ++
    match invocation.task with
    | .render (some output) => [output, World.parent output]
    | _ => []

end Invocation

/-- The variables that commands look at whatever the topology is. -/
def fixedNames : List String :=
  ["PATH", "CLICOLOR_FORCE"] ++ Invocation.main.variableNames ++ Manifest.overrides.map (·.1)

/-- The variables that hold the secrets of a manifest. -/
def secretNames (entry : Option FileEntry) : List String :=
  match entry with
  | some (.file content) =>
    match Manifest.read content with
    | .ok manifest => manifest.secrets.values.map (·.env)
    | .error _ => []
  | _ => []

/-- Runs the supervisor. -/
def runSupervisor (words : List String) : IO Outcome := do
  let fixed ← readVariables fixedNames
  match Invocation.read fixed.get? words with
  | .error refusal => return .refused World.version refusal
  | .ok invocation =>
    let files ← readEntries invocation.paths
    let names :=
      match invocation.topology with
      | some path => secretNames (files path)
      | none => Manifest.reference.secrets.values.map (·.env)
    let assignments ← readVariables (fixedNames ++ names)
    let world : World := ⟨assignments.get?, assignments, files, .isolated, none⟩
    return world.run invocation

/-- Runs the initializer. -/
def runInitializer (words : List String) : IO Outcome := do
  let assignments ← readVariables InitializerOptions.grammar.variableNames
  let salt ← IO.getRandomBytes 16
  let password ← IO.getRandomBytes 16
  let digits := (Digest.hex password.toList).toList.take 32
  let chance : Chance := ⟨String.ofList digits, salt.toList⟩
  return InitializerOptions.execute assignments.get? .isolated InitializerOptions.noStore chance ()
    words

/-- The name under which this program has been called. -/
def calledAs : IO String := do
  let path := toString (← IO.appPath)
  match Text.splitLast? '/' path.toList with
  | some (_, name) => return String.ofList name
  | none => return path

end Convoy.CommandLine

open Convoy.CommandLine in
def main (words : List String) : IO UInt32 := do
  let name ← calledAs
  let outcome ← if name == "stackgate-init" then runInitializer words else runSupervisor words
  match outcome.written with
  | some (path, content) => IO.FS.writeFile path content
  | none => pure ()
  IO.print outcome.stdout
  IO.eprint outcome.stderr
  return outcome.exit.toUInt32

import Convoy.CommandLine.Arguments
import Convoy.Manifest.Check
import Convoy.Manifest.Reader
import Convoy.Manifest.Reference
import Convoy.Network
import Convoy.Terminal

/-!
# The world of a command

All that a command sees of the machine it runs on, and all that it leaves behind, as values.
-/

namespace Convoy.CommandLine

/-- What is found under a path. -/
inductive FileEntry where
  | file (content : String)
  | directory
  deriving DecidableEq

/-- What a command sees. -/
structure World where
  environment : Environment
  /-- The variables that the programs it starts inherit. -/
  inherited : Dictionary String
  files : String → Option FileEntry
  network : Network
  /-- The file whose appearance makes somebody interrupt the command. -/
  interruptedBy : Option String

/-- What a command leaves behind. -/
structure Outcome where
  exit : Nat
  stdout : String
  stderr : String
  /-- The file that was written, and what was written to it. -/
  written : Option (String × String)
  deriving DecidableEq

namespace Outcome

/-- A command that succeeded. -/
def done (stdout : String) : Outcome := ⟨0, stdout, "", none⟩

/-- A command that failed after it had printed something. What is told about a crash does not come
from the command and is left out. -/
def failed (terminal : Terminal) (stdout : String) (failure : Failure) : Outcome :=
  ⟨failure.exitCode, stdout,
    if failure.cause.isCrash then "" else terminal.problem failure.message, none⟩

/-- A command line that was refused. How to use the program is not shown. -/
def refused (version : String) : Refusal → Outcome
  | .misuse => ⟨2, "", "", none⟩
  | .help => done ""
  | .version => done (version ++ "\n")

end Outcome

namespace World

def terminal (world : World) : Terminal := .ofEnvironment world.environment

def isDirectory : String := "Is a directory (os error 21)"

def noSuchFile : String := "No such file or directory (os error 2)"

/-- The directory in which a path is. -/
def parent (path : String) : String :=
  match Text.splitLast? '/' path.toList with
  | none => "."
  | some ([], _) => "/"
  | some (before, _) => String.ofList before

/-- Why a file cannot be written, if it cannot. -/
def writeError? (world : World) (path : String) : Option String :=
  match world.files path with
  | some .directory => some isDirectory
  | some (.file _) => none
  | none =>
    match world.files (parent path) with
    | some .directory => none
    | some (.file _) => some "Not a directory (os error 20)"
    | none => some noSuchFile

/-- The manifest in a file. -/
def readManifest (world : World) (path : String) : Except Failure Manifest :=
  match world.files path with
  | none => .error (ConfigError.fileNotFound path)
  | some .directory => .error ((Failure.ofText isDirectory).within s!"Failed to read {path}")
  | some (.file content) =>
    (Manifest.read content).mapError fun error =>
      (Failure.ofCause (.config error)).within s!"Failed to parse {path}"

/-- The topology that a file describes; without a file it is the built-in one. -/
def loadTopology (world : World) (path : Option String) : Except Failure Topology := do
  let manifest ←
    match path with
    | some path => world.readManifest path
    | none => pure .reference
  (← manifest.withFlags world.environment).toTopology

end World

end Convoy.CommandLine

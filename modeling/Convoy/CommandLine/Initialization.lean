import Convoy.CommandLine.Invocation
import Convoy.CommandLine.World
import Convoy.Initializer

/-!
# The command line of the initializer

Every option has a variable that stands in for it. What the initializer tells goes to its log, which
is the only thing it prints.
-/

namespace Convoy.CommandLine

namespace InitializerOptions

/-- An option of the initializer. -/
def option (name variableName : String) (accepts : String → Bool) : OptionSpec :=
  ⟨name, none, true, some variableName, accepts⟩

def anyText (_ : String) : Bool := true

def grammar : Grammar where
  options :=
    [option "initialize" "DD_INITIALIZE" fun text => (Naming.flag text).toOption.isSome,
      option "admin-user" "DD_ADMIN_USER" anyText,
      option "admin-mail" "DD_ADMIN_MAIL" anyText,
      option "admin-first-name" "DD_ADMIN_FIRST_NAME" anyText,
      option "admin-last-name" "DD_ADMIN_LAST_NAME" anyText,
      option "admin-password" "DD_ADMIN_PASSWORD" anyText,
      option "database-host" "DD_DATABASE_HOST" anyText,
      option "database-port" "DD_DATABASE_PORT" fun text =>
        (Invocation.shortNumber? 16 text).isSome,
      option "database-name" "DD_DATABASE_NAME" anyText,
      option "database-user" "DD_DATABASE_USER" anyText,
      option "database-password" "DD_DATABASE_PASSWORD" anyText,
      option "database-readiness-timeout" "DD_DATABASE_READINESS_TIMEOUT" fun text =>
        (Invocation.number? 64 text).isSome]
  takesWords := false
  takesRest := false
  hasCommands := false
  tellsVersion := true

/-- Reads a command line. -/
def read (environment : Environment) (words : List String) :
    Except Refusal InitializerSettings := do
  let given ← grammar.read words
  let assignments ← grammar.complete environment given
  let value? (name : String) : Option String := (given.value? name).or (assignments.lookup name)
  let textOr (name standard : String) : String := (value? name).getD standard
  let password? (name : String) : Option String := (value? name).filter (· != "")
  let numberOr (name : String) (standard : Nat) : Nat :=
    ((value? name).bind (Invocation.shortNumber? 64)).getD standard
  let standard := AdminAccount.standard
  return {
    enabled := ((value? "initialize").bind fun text => (Naming.flag text).toOption).getD true
    admin :=
      { username := textOr "admin-user" standard.username
        email := textOr "admin-mail" standard.email
        firstName := textOr "admin-first-name" standard.firstName
        lastName := textOr "admin-last-name" standard.lastName
        password := password? "admin-password" }
    database :=
      { host := textOr "database-host" "postgres"
        port := UInt16.ofNat (numberOr "database-port" 5432)
        name := textOr "database-name" "defectdojo"
        user := textOr "database-user" "defectdojo"
        password := password? "database-password"
        connectionTimeout := .ofSeconds 10 }
    readinessTimeout := .ofSeconds (numberOr "database-readiness-timeout" 30) }

/-- The text about the version. -/
def version : String := "stackgate-init 0.1.0"

/-- A line of the log, after the time. -/
def shown (line : LogLine) : String :=
  String.ofList (List.replicate (5 - line.level.name.length) ' ') ++ line.level.name ++ " " ++
    line.text ++ "\n"

/-- A store that cannot be opened. -/
def noStore : StoreBehaviour Unit where
  connect := fun settings store =>
    (.error ((Failure.ofText "connection refused").within
      (s!"Failed to connect to database '{settings.name}' at {settings.host}:" ++
        toString settings.port.toNat)), store)
  answer := fun _ store => (.error (.ofText "connection refused"), store)

/-- Reads a command line and runs the initializer. What its gate logs is not printed, nor what is
told about a crash. -/
def execute {σ : Type} (environment : Environment) (network : Network)
    (behaviour : StoreBehaviour σ) (chance : Chance) (store : σ) (words : List String) : Outcome :=
  match read environment words with
  | .error refusal => .refused version refusal
  | .ok settings =>
    let done := settings.run .exact network.connector .argon2id behaviour chance store .zero
    let ending : List LogLine × Nat :=
      match done.result with
      | .ok .skipped => ([], 0)
      | .ok (.initialized ..) => ([.info "=== Initialization Complete ==="], 0)
      | .error failure =>
        (if failure.cause.isCrash then [] else [.error s!"Initialization failed: {failure.message}"],
          failure.exitCode)
    let ofGate := done.wait.elim [] (settings.gate.lines .zero)
    let own := (done.lines.filter (!ofGate.contains ·)).map (·.2)
    let lines := (own ++ ending.1).filter (·.atLeast .info)
    ⟨ending.2, String.join (lines.map shown), "", none⟩

end InitializerOptions

end Convoy.CommandLine

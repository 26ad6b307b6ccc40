import Convoy.Duration
import Convoy.Text.Quoted

/-!
# Causes of failure

One inductive type for each part of a stack that can fail, and the one place where a cause gets its
wording. A `Failure` is a cause together with what was being attempted when it arose, the outermost
attempt first.
-/

namespace Convoy

/-- Why a list of services is not a topology. -/
inductive TopologyError where
  | duplicateService (name : String)
  | unknownDependency (service dependency : String)
  | selfDependency (service : String)
  | cycle (services : List String)
  | unreachableDependency (service dependency : String)
  | notOneShot (service dependency : String)
  | unknownVolume (service volume : String)
  | datasetBoundTwice (dataset : String) (volumes : List String)
  | unknownSecret (service secret : String)
  | probeMismatch (service probe expected actual : String)
  | edgeProxy (reason : String)
  deriving DecidableEq

namespace TopologyError

def message : TopologyError → String
  | duplicateService name => s!"Service '{name}' is declared more than once"
  | unknownDependency service dependency =>
    s!"Service '{service}' depends on unknown service '{dependency}'"
  | selfDependency service => s!"Service '{service}' depends on itself"
  | cycle services => "Dependency cycle between services: " ++ ", ".intercalate services
  | unreachableDependency service dependency =>
    s!"Service '{service}' waits for '{dependency}' to be reachable, " ++
      s!"but '{dependency}' declares no endpoint"
  | notOneShot service dependency =>
    s!"Service '{service}' waits for '{dependency}' to complete, " ++
      s!"but '{dependency}' is not a one-shot service"
  | unknownVolume service volume => s!"Service '{service}' mounts undeclared volume '{volume}'"
  | datasetBoundTwice dataset volumes =>
    s!"Dataset '{dataset}' is bound by more than one volume: " ++ ", ".intercalate volumes
  | unknownSecret service secret => s!"Service '{service}' references undeclared secret '{secret}'"
  | probeMismatch service probe expected actual =>
    s!"Probe mismatch on '{service}' {probe} probe: expected {expected}, got {actual}"
  | edgeProxy reason => s!"Edge proxy misconfigured: {reason}"

end TopologyError

/-- Why waiting on an address ended without a connection. -/
inductive GateError where
  | invalidTarget (target : String)
  | timeout (target : String) (timeout : Duration) (attempts : UInt32)
  | cancelled (target : String)
  deriving DecidableEq

namespace GateError

def message : GateError → String
  | invalidTarget target => s!"Invalid gate target '{target}': expected host:port"
  | timeout target limit attempts =>
    "Timed out after " ++ limit.human ++ s!" waiting for {target} ({attempts.toNat} attempts)"
  | cancelled target => s!"Wait for {target} was cancelled"

end GateError

/-- Why a secret has no usable value. -/
inductive SecretError where
  | missing (secret name : String)
  | insecureDefault (secret name : String)
  | unresolved (secret : String)
  deriving DecidableEq

namespace SecretError

def message : SecretError → String
  | missing secret name => s!"Required secret '{secret}' is missing. Set {name}"
  | insecureDefault secret name =>
    s!"Secret '{secret}' still uses its insecure default; set {name} to a real value"
  | unresolved secret => s!"Secret '{secret}' is not resolved"

end SecretError

/-- Why a configuration is refused before a topology is built from it. -/
inductive ConfigError where
  | fileNotFound (path : String)
  | unreadable
  | invalidValue (field value : String)
  deriving DecidableEq

namespace ConfigError

def message : ConfigError → String
  | fileNotFound path => s!"Config file not found: {path}"
  | unreadable => "Failed to parse config"
  | invalidValue field value => s!"Invalid configuration value for {field}: {value}"

end ConfigError

/-- Why a supervised service cannot go on. -/
inductive SupervisorError where
  | startFailed (service reason : String)
  | oneShotFailed (service : String) (code : Option Int)
  | restartBudgetExhausted (service : String) (restarts : Nat)
  | dependencyFailed (service dependency : String)
  deriving DecidableEq

namespace SupervisorError

def message : SupervisorError → String
  | startFailed service reason => s!"Service '{service}' failed to start: {reason}"
  | oneShotFailed service code =>
    let status := code.elim "unknown" toString
    s!"One-shot service '{service}' exited with status {status}"
  | restartBudgetExhausted service restarts =>
    s!"Service '{service}' gave up after {restarts} restarts"
  | dependencyFailed service dependency =>
    s!"Service '{service}' never started: dependency '{dependency}' failed"

end SupervisorError

/-- Why a written value is refused; the name of the field that held it opens the message. -/
inductive ValueError where
  | empty
  | tooLong (length limit : Nat)
  | noLowercaseStart (first : Char)
  | noLetterStart (first : Char)
  | invalidCharacters (characters : List Char) (allowed : String)
  | invalidCharacter (character : Char)
  | blankEnds
  | blankInside
  | controlInside
  | tooShort (limit : Nat)
  | noAtSign (text : String)
  | malformed (text : String)
  | invalidDomain (domain : String)
  | outOfRange (value least greatest : Nat)
  | noFlag (word : String)
  | bothHandlers
  | noHandler
  | relativePath (path : String)
  | zeroPort
  deriving DecidableEq

namespace ValueError

/-- The message about the value of a field. -/
def message (field : String) : ValueError → String
  | empty => s!"{field} cannot be empty"
  | tooLong length limit => s!"{field} exceeds maximum length ({length} > {limit})"
  | noLowercaseStart first => s!"{field} must start with a lowercase letter, got: '{first}'"
  | noLetterStart first => s!"{field} must start with a letter or underscore, got: '{first}'"
  | invalidCharacters characters allowed =>
    s!"{field} contains invalid characters: " ++ Text.quoteChars characters ++
      s!" (allowed: {allowed})"
  | invalidCharacter character => s!"{field} contains invalid character '{character}'"
  | blankEnds =>
    s!"{field} contains leading or trailing whitespace (this is likely unintentional)"
  | blankInside => s!"{field} cannot contain whitespace"
  | controlInside => s!"{field} contains control characters"
  | tooShort limit => s!"{field} must be at least {limit} characters"
  | noAtSign text => s!"{field} must contain '@', got: '{text}'"
  | malformed text => s!"{field} is malformed: '{text}'"
  | invalidDomain domain => s!"{field} has an invalid domain: '{domain}'"
  | outOfRange value least greatest =>
    s!"{field} must be between {least} and {greatest}, got: {value}"
  | noFlag word => s!"{field} must be a boolean, got: '{word}'"
  | bothHandlers => s!"{field} sets both http and tcp"
  | noHandler => s!"{field} needs an http or tcp handler"
  | relativePath path => s!"{field} http path must start with '/', got: {path}"
  | zeroPort => s!"{field} port cannot be 0"

end ValueError

/-- A computation with times whose result cannot be represented. -/
inductive Overflow where
  /-- An instant after the end of the clock. -/
  | instant
  /-- The sum of two durations. -/
  | sum
  /-- A duration repeated a number of times. -/
  | product
  deriving DecidableEq

namespace Overflow

def message : Overflow → String
  | instant => "overflow when adding duration to instant"
  | sum => "overflow when adding durations"
  | product => "overflow when multiplying duration by scalar"

end Overflow

/-- What can be at the root of a failure; `other` holds the wording of a plain refusal. An overflow
is no answer of the program: it crashes where one happens, and no context is put on it. -/
inductive Cause where
  | topology (error : TopologyError)
  | gate (error : GateError)
  | secret (error : SecretError)
  | config (error : ConfigError)
  | supervisor (error : SupervisorError)
  | value (field : String) (error : ValueError)
  | overflow (what : Overflow)
  | other (text : String)
  deriving DecidableEq

namespace Cause

def message : Cause → String
  | topology error => error.message
  | gate error => error.message
  | secret error => error.message
  | config error => error.message
  | supervisor error => error.message
  | value field error => error.message field
  | overflow what => what.message
  | other text => text

/-- Whether the program crashes. -/
def isCrash : Cause → Bool
  | overflow _ => true
  | _ => false

end Cause

/-- A cause and the attempts it put an end to, the outermost first. -/
structure Failure where
  contexts : List String
  cause : Cause
  deriving DecidableEq

namespace Failure

def ofCause (cause : Cause) : Failure := ⟨[], cause⟩

def ofText (text : String) : Failure := ofCause (.other text)

/-- The same cause, seen from one attempt further out. -/
def within (context : String) (failure : Failure) : Failure :=
  { failure with contexts := context :: failure.contexts }

/-- The whole chain on one line, the cause last. -/
def message (failure : Failure) : String :=
  ": ".intercalate (failure.contexts ++ [failure.cause.message])

/-- The first element of the chain alone. -/
def outermost (failure : Failure) : String :=
  failure.contexts.headD failure.cause.message

/-- The process status for a failure: a gate that ran out of time has a status of its own, and so has
a program that crashed. -/
def exitCode (failure : Failure) : Nat :=
  match failure.cause with
  | .gate (.timeout ..) => 124
  | .overflow _ => 101
  | _ => 1

end Failure

instance : Coe TopologyError Failure := ⟨fun error => .ofCause (.topology error)⟩

instance : Coe GateError Failure := ⟨fun error => .ofCause (.gate error)⟩

instance : Coe SecretError Failure := ⟨fun error => .ofCause (.secret error)⟩

instance : Coe ConfigError Failure := ⟨fun error => .ofCause (.config error)⟩

instance : Coe SupervisorError Failure := ⟨fun error => .ofCause (.supervisor error)⟩

end Convoy

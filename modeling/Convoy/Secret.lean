import Convoy.Dictionary
import Convoy.Digest
import Convoy.Error
import Convoy.Log

/-!
# Secrets

Secrets are declared once and referred to by name, so that every service that uses one gets the same
value. A value comes from the environment or, for evaluation only, from a default that everybody
knows.
-/

namespace Convoy

/-- What a deployment is for. -/
inductive Profile where
  /-- To try the stack out; known defaults are accepted. -/
  | evaluation
  /-- To be used; every secret has to come from the environment. -/
  | production
  deriving DecidableEq

namespace Profile

def name : Profile → String
  | evaluation => "evaluation"
  | production => "production"

def ofName? (name : String) : Option Profile :=
  [evaluation, production].find? (·.name == name)

end Profile

/-- The declaration of one secret. -/
structure SecretSpec where
  name : String
  /-- The environment variable that holds the value. -/
  env : String
  insecureDefault : Option String
  deriving DecidableEq

/-- Where a value came from. -/
inductive SecretSource where
  | environment
  | insecureDefault
  deriving DecidableEq

namespace SecretSource

def name : SecretSource → String
  | environment => "environment"
  | insecureDefault => "insecure_default"

/-- The name in the redacted form of a value. -/
def title : SecretSource → String
  | environment => "Environment"
  | insecureDefault => "InsecureDefault"

end SecretSource

/-- The value that a secret has in one deployment. -/
structure SecretValue where
  value : String
  source : SecretSource
  deriving DecidableEq

namespace SecretValue

def fingerprint (secret : SecretValue) : String := Digest.fingerprint secret.value

/-- The form for logs, which does not show the value. -/
def redacted (secret : SecretValue) : String :=
  "SecretValue \x7b value: \"<redacted>\", source: " ++ secret.source.title ++ " \x7d"

end SecretValue

/-- Values of environment variables; an absent variable has none. -/
abbrev Environment := String → Option String

/-- The declared secrets by name. -/
abbrev SecretRegistry := Dictionary SecretSpec

/-- The values of all declared secrets by name. -/
abbrev ResolvedSecrets := Dictionary SecretValue

namespace SecretSpec

/-- The value of the secret's variable; an empty one counts as absent. -/
def supplied? (spec : SecretSpec) (environment : Environment) : Option String :=
  (environment spec.env).filter (· != "")

/-- The value of one secret, or why the profile does not accept what there is. -/
def resolve (spec : SecretSpec) (profile : Profile) (environment : Environment) :
    Except SecretError SecretValue :=
  match spec.supplied? environment, profile with
  | some value, .production =>
    if spec.insecureDefault == some value then .error (.insecureDefault spec.name spec.env)
    else .ok ⟨value, .environment⟩
  | some value, .evaluation => .ok ⟨value, .environment⟩
  | none, .evaluation =>
    match spec.insecureDefault with
    | some value => .ok ⟨value, .insecureDefault⟩
    | none => .error (.missing spec.name spec.env)
  | none, .production => .error (.missing spec.name spec.env)

/-- The warning about a default in use. -/
def defaultWarning (spec : SecretSpec) : LogLine :=
  .warn (s!"Secret '{spec.name}' uses its insecure default ({spec.env} not set); " ++
    "do not use this outside evaluation")

end SecretSpec

namespace SecretRegistry

/-- The registry of some declarations; of two with one name the later counts. -/
def ofList (specs : List SecretSpec) : SecretRegistry :=
  Dictionary.ofList (specs.map fun spec => (spec.name, spec))

/-- Resolves declarations in turn; the first that cannot be resolved decides the error. -/
def resolveEntries (profile : Profile) (environment : Environment) :
    List (String × SecretSpec) → Except SecretError (List (String × SecretValue))
  | [] => .ok []
  | entry :: rest => do
    let value ← entry.2.resolve profile environment
    let values ← resolveEntries profile environment rest
    return (entry.1, value) :: values

/-- Resolving changes values but neither names nor their order. -/
theorem map_fst_resolveEntries
    (profile : Profile) (environment : Environment) :
    ∀ (entries : List (String × SecretSpec)) {values : List (String × SecretValue)},
      resolveEntries profile environment entries = .ok values →
        values.map (·.1) = entries.map (·.1) := by
  intro entries
  induction entries with
  | nil =>
    intro values resolved
    cases resolved
    rfl
  | cons entry rest hypothesis =>
    intro values resolved
    unfold resolveEntries at resolved
    cases first : entry.2.resolve profile environment with
    | error cause => simp [first, bind, Except.bind] at resolved
    | ok value =>
      cases later : resolveEntries profile environment rest with
      | error cause => simp [first, later, bind, Except.bind] at resolved
      | ok others =>
        simp only [first, later, bind, Except.bind, pure, Except.pure, Except.ok.injEq] at resolved
        subst resolved
        simp [hypothesis later]

/-- Every declared secret with its value, or the first error in the order of names. -/
def resolve (registry : SecretRegistry) (profile : Profile) (environment : Environment) :
    Except SecretError ResolvedSecrets :=
  match resolved : resolveEntries profile environment registry.entries with
  | .error cause => .error cause
  | .ok values =>
    .ok ⟨values, by
      have names := map_fst_resolveEntries profile environment registry.entries resolved
      have ordered := List.pairwise_map.2 registry.ordered
      exact List.pairwise_map.1 (names ▸ ordered)⟩

/-- The warnings that a resolution gives before it ends, one for each default in use. -/
def warnings (registry : SecretRegistry) (profile : Profile) (environment : Environment) :
    List LogLine :=
  let resolvable := registry.values.takeWhile fun spec =>
    (spec.resolve profile environment).isOk
  (resolvable.filter fun spec => (spec.supplied? environment).isNone).map SecretSpec.defaultWarning

end SecretRegistry

namespace ResolvedSecrets

/-- The variables of a service with the values of the secrets they refer to. -/
def bindEntries (secrets : ResolvedSecrets) :
    List (String × String) → Except SecretError (List (String × String))
  | [] => .ok []
  | reference :: rest =>
    match secrets.get? reference.2 with
    | none => .error (.unresolved reference.2)
    | some secret => do
      let bound ← bindEntries secrets rest
      return (reference.1, secret.value) :: bound

/-- Replaces references to secrets by their values. -/
def bind (secrets : ResolvedSecrets) (references : Dictionary String) :
    Except SecretError (Dictionary String) :=
  (secrets.bindEntries references.entries).map Dictionary.ofList

end ResolvedSecrets

end Convoy

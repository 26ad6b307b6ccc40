import Convoy.Gate
import Convoy.Initializer.Account
import Convoy.Initializer.Store

/-!
# Initializing a store

The first run of a stack brings the schema of its store up to date, seeds settings and creates the
account of the administrator. The order is fixed: the account is checked, the store is waited for
and opened, and then one call follows the other. It can be repeated without harm.
-/

namespace Convoy

/-- What an initializer is told. -/
structure InitializerSettings where
  /-- If this is false, nothing is done. -/
  enabled : Bool
  admin : AdminAccount
  database : DatabaseSettings
  readinessTimeout : Duration
  deriving DecidableEq

/-- How an initialization ends if nothing fails. -/
inductive InitOutcome where
  | skipped
  | initialized (settingsSeeded : Nat) (adminCreated : Bool)
  deriving DecidableEq

/-- What chance contributes to a run. -/
structure Chance where
  /-- The password that is used if none is given. -/
  password : String
  salt : List UInt8
  deriving DecidableEq

/-- How far the calls to the store have come. -/
inductive InitStage where
  | migrating
  | seeding
  | creating (settingsSeeded : Nat)
  | ended (result : Except Failure InitOutcome)

namespace InitStage

/-- How many calls are left at most. -/
def callsLeft : InitStage → Nat
  | migrating => 3
  | seeding => 2
  | creating _ => 1
  | ended _ => 0

end InitStage

/-- What a call to the store led to. -/
structure InitStep (σ : Type) where
  stage : InitStage
  store : σ
  calls : List StoreCall
  lines : List LogLine

/-- The course of the calls to a store. -/
structure Initialization (σ : Type) where
  result : Except Failure InitOutcome
  store : σ
  calls : List StoreCall
  lines : List LogLine

namespace Initializer

/-- The settings that every store has after its first run. -/
def defaultSettings : List (String × String) :=
  [("enable_deduplication", "false"), ("enable_jira", "false"), ("enable_product_grade", "true"),
    ("enable_benchmark", "true"), ("time_zone", "UTC")]

/-- The account that is stored for an administrator. -/
def newAccount (admin : AdminAccount) (passwordHash : PasswordHash) : NewAccount where
  username := admin.username
  email := admin.email
  firstName := admin.firstName
  lastName := admin.lastName
  passwordHash := passwordHash

/-- The password of an administrator: the one that is given, or the generated one. -/
def password (admin : AdminAccount) (chance : Chance) : String :=
  admin.password.getD chance.password

/-- The account that a store is asked for, unless its password cannot be hashed. -/
def makeAccount (hasher : Hasher) (admin : AdminAccount) (chance : Chance) :
    Except Failure NewAccount :=
  match hasher (password admin chance) chance.salt with
  | .error reason => .error (.ofText s!"Failed to hash admin password: {reason}")
  | .ok passwordHash => .ok (newAccount admin passwordHash)

/-- What is told about an account; a generated password is told once, when it is new. -/
def accountLines (admin : AdminAccount) (chance : Chance) : Bool → List LogLine
  | false => [.info s!"✓ Admin account '{admin.username}' already exists"]
  | true =>
    let generated : List LogLine :=
      match admin.password with
      | some _ => []
      | none => [.warn s!"Admin password for '{admin.username}': {chance.password}"]
    .info s!"✓ Admin account '{admin.username}' created" :: generated

/-- What is told about settings. -/
def settingsLine (seeded : Nat) : LogLine :=
  if 0 < seeded then .info s!"✓ Seeded {seeded} settings"
  else .info "✓ System settings already present"

variable {σ : Type}

/-- Makes the next call to the store. A call that fails is the last one. The password of the account
is hashed before the account is asked for; if that fails, there is no call. -/
def step (hasher : Hasher) (behaviour : StoreBehaviour σ) (admin : AdminAccount) (chance : Chance)
    (stage : InitStage) (store : σ) : InitStep σ :=
  match stage with
  | .migrating =>
    let begun := LogLine.info "1. Applying schema migrations..."
    match behaviour.answer .migrate store with
    | (.error failure, after) => ⟨.ended (.error failure), after, [.migrate], [begun]⟩
    | (.ok (), after) => ⟨.seeding, after, [.migrate], [begun]⟩
  | .seeding =>
    let begun := LogLine.info "2. Seeding system settings..."
    match behaviour.answer (.seed defaultSettings) store with
    | (.error failure, after) => ⟨.ended (.error failure), after, [.seed defaultSettings], [begun]⟩
    | (.ok seeded, after) =>
      ⟨.creating seeded, after, [.seed defaultSettings], [begun, settingsLine seeded]⟩
  | .creating seeded =>
    let begun := LogLine.info "3. Creating admin account if it doesn't exist..."
    match makeAccount hasher admin chance with
    | .error failure => ⟨.ended (.error failure), store, [], [begun]⟩
    | .ok account =>
      match behaviour.answer (.create account) store with
      | (.error failure, after) => ⟨.ended (.error failure), after, [.create account], [begun]⟩
      | (.ok created, after) =>
        ⟨.ended (.ok (.initialized seeded created)), after, [.create account],
          begun :: accountLines admin chance created⟩
  | .ended result => ⟨.ended result, store, [], []⟩

theorem callsLeft_step_lt
    (hasher : Hasher) (behaviour : StoreBehaviour σ) (admin : AdminAccount) (chance : Chance)
    (store : σ) {stage : InitStage} (left : 0 < stage.callsLeft) :
    (step hasher behaviour admin chance stage store).stage.callsLeft < stage.callsLeft := by
  cases stage with
  | migrating => simp only [step]; split <;> simp [InitStage.callsLeft]
  | seeding => simp only [step]; split <;> simp [InitStage.callsLeft]
  | creating seeded =>
    simp only [step]
    split
    · simp [InitStage.callsLeft]
    · split <;> simp [InitStage.callsLeft]
  | ended result => simp [InitStage.callsLeft] at left

/-- Makes the calls that are left. -/
def finish (hasher : Hasher) (behaviour : StoreBehaviour σ) (admin : AdminAccount) (chance : Chance)
    (stage : InitStage) (store : σ) : Initialization σ :=
  match _same : stage with
  | .ended result => ⟨result, store, [], []⟩
  | .migrating | .seeding | .creating _ =>
    let next := step hasher behaviour admin chance stage store
    let later := finish hasher behaviour admin chance next.stage next.store
    { later with calls := next.calls ++ later.calls, lines := next.lines ++ later.lines }
termination_by stage.callsLeft
decreasing_by
  all_goals
    subst _same
    exact callsLeft_step_lt hasher behaviour admin chance store (by simp [InitStage.callsLeft])

/-- Makes all calls to an open store. -/
def prepare (hasher : Hasher) (behaviour : StoreBehaviour σ) (admin : AdminAccount)
    (chance : Chance) (store : σ) : Initialization σ :=
  finish hasher behaviour admin chance .migrating store

end Initializer

/-- The course of a whole run. -/
structure InitRun (σ : Type) where
  result : Except Failure InitOutcome
  store : σ
  finished : Duration
  /-- The wait for the store, if it was waited for. -/
  wait : Option Wait
  /-- What was opened. -/
  opened : List DatabaseSettings
  calls : List StoreCall
  lines : List (Duration × LogLine)

namespace InitializerSettings

variable {σ : Type}

/-- The gate of the store. -/
def gate (settings : InitializerSettings) : Gate :=
  .ofTarget ⟨settings.database.host, settings.database.port⟩ settings.readinessTimeout

/-- A run that ends before the store is touched. -/
def untouched (store : σ) (begun : Duration) (result : Except Failure InitOutcome)
    (lines : List LogLine) : InitRun σ :=
  ⟨result, store, begun, none, [], [], lines.map (begun, ·)⟩

/-- How a run ends whose wait for the store has led to no connection. A crash gets no context. -/
def unreachedFailure (cause : Cause) : Failure :=
  if cause.isCrash then .ofCause cause
  else (Failure.ofCause cause).within "Store never became reachable"

/-- Waits for the store, opens it and makes the calls. -/
def runChecked (settings : InitializerSettings) (timer : Timer) (connector : Connector)
    (hasher : Hasher) (behaviour : StoreBehaviour σ) (chance : Chance) (store : σ)
    (begun : Duration) : InitRun σ :=
  let gate := settings.gate
  let wait := gate.wait timer connector begun
  let waiting := (begun, LogLine.info ("Waiting for store at " ++ gate.target.target ++ "...")) ::
    gate.lines begun wait
  match wait.result with
  | .error cause =>
    ⟨.error (unreachedFailure cause), store, wait.finished, some wait, [], [], waiting⟩
  | .ok waited =>
    let reached := waiting ++
      [(wait.finished, LogLine.info ("✓ Store reachable after " ++ waited.short))]
    match behaviour.connect settings.database store with
    | (.error failure, after) =>
      ⟨.error failure, after, wait.finished, some wait, [settings.database], [], reached⟩
    | (.ok (), after) =>
      let done := Initializer.prepare hasher behaviour settings.admin chance after
      ⟨done.result, done.store, wait.finished, some wait, [settings.database], done.calls,
        reached ++ done.lines.map (wait.finished, ·)⟩

/-- A whole run, from an instant on. -/
def run (settings : InitializerSettings) (timer : Timer) (connector : Connector) (hasher : Hasher)
    (behaviour : StoreBehaviour σ) (chance : Chance) (store : σ) (begun : Duration) : InitRun σ :=
  if settings.enabled then
    match settings.admin.check with
    | .error failure =>
      untouched store begun (.error (failure.within "Admin account validation failed")) []
    | .ok () => settings.runChecked timer connector hasher behaviour chance store begun
  else
    untouched store begun (.ok .skipped)
      [.info "DD_INITIALIZE is false, skipping initialization"]

end InitializerSettings

end Convoy

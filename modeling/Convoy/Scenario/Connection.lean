import Convoy.Dictionary
import Convoy.Gate

/-!
# Scripted connections

A script tells for each target when it accepts connections: by a list of instants at which it goes
up or down, or from some time after the latest start of a service.
-/

namespace Convoy.Scenario

/-- Values that hold from an instant on. -/
abbrev Timeline (α : Type) := List (Duration × α)

namespace Timeline

variable {α : Type}

/-- The value at an instant: that of the last entry which is not later. -/
def at? (timeline : Timeline α) (now : Duration) : Option α :=
  ((timeline.filter (·.1 ≤ now)).getLast?).map (·.2)

end Timeline

/-- When one target accepts connections. -/
structure ConnectionRule where
  /-- When the target goes up and down; it is down before the first entry. -/
  windows : Option (Timeline Bool)
  /-- The service that has to have started. -/
  afterStartOf : Option String
  /-- How long after that start. -/
  warmup : Duration
  /-- How long an attempt takes. -/
  latency : Duration

namespace ConnectionRule

/-- Whether the target is up, when each service has last started as given. -/
def isUp (rule : ConnectionRule) (latestStart : String → Option Duration) (now : Duration) : Bool :=
  match rule.windows, rule.afterStartOf with
  | some windows, _ => (windows.at? now).getD false
  | none, some service => (latestStart service).any fun start => start + rule.warmup ≤ now
  | none, none => true

/-- How long an attempt with a budget takes. -/
def delay (rule : ConnectionRule) (budget : Duration) : Duration := min rule.latency budget

/-- What an attempt meets at its end. -/
def refusal (rule : ConnectionRule) (latestStart : String → Option Duration)
    (budget finished : Duration) : Option String :=
  if budget < rule.latency then some "connection attempt timed out"
  else if rule.isUp latestStart finished then none
  else some "connection refused"

end ConnectionRule

/-- The rules of a script by the text of their targets; a target without a rule is always up. -/
abbrev ConnectionScript := Dictionary ConnectionRule

namespace ConnectionScript

/-- How targets answer while no service starts. -/
def connector (script : ConnectionScript) : Connector := fun target started budget =>
  match script.get? target.target with
  | none => ⟨.zero, none⟩
  | some rule =>
    let delay := rule.delay budget
    ⟨delay, rule.refusal (fun _ => none) budget (started + delay)⟩

end ConnectionScript

end Convoy.Scenario

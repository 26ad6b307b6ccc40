import Convoy.Probe

/-!
# Health of an instance

The answers to the three kinds of probe drive one small machine for each instance. Startup answers
decide when the instance runs, liveness answers when it has to be restarted, and readiness answers
whether it serves. Each answer yields the actions that have to follow, in order.
-/

namespace Convoy

/-- Where an instance stands. -/
inductive Lifecycle where
  | starting
  | running
  | restarting
  | failedToStart
  deriving DecidableEq

namespace Lifecycle

def name : Lifecycle → String
  | starting => "starting"
  | running => "running"
  | restarting => "restarting"
  | failedToStart => "failed_to_start"

end Lifecycle

/-- What has to follow from an answer. -/
inductive HealthAction where
  | started
  | startupFailed
  | restart
  | addToRouting
  | removeFromRouting
  deriving DecidableEq

/-- How many answers in a row were the same; at most one of the two counts is not zero. -/
structure Streak where
  successes : Nat
  failures : Nat
  deriving DecidableEq

namespace Streak

def zero : Streak := ⟨0, 0⟩

/-- How far answers are counted: a count that has come this far stays. -/
def countLimit : Nat := 4294967295

/-- Counts one more answer; the other count starts again. -/
def record (streak : Streak) (success : Bool) : Streak :=
  if success then ⟨min (streak.successes + 1) countLimit, 0⟩
  else ⟨0, min (streak.failures + 1) countLimit⟩

end Streak

/-- How many answers in a row it takes. -/
structure Thresholds where
  failure : Nat
  success : Nat
  deriving DecidableEq

namespace Thresholds

/-- The thresholds of a probe; a threshold of zero acts like one. -/
def ofProbe (probe : Probe) : Thresholds :=
  ⟨max probe.failureThreshold 1, max probe.successThreshold 1⟩

end Thresholds

/-- All that is known about the health of one instance. -/
structure Health where
  lifecycle : Lifecycle
  serving : Bool
  /-- How often the instance was replaced. -/
  restarts : Nat
  streaks : PerKind Streak
  thresholds : PerKind (Option Thresholds)
  deriving DecidableEq

namespace Health

/-- The state at the beginning of an incarnation. Without a startup probe the instance runs at once,
and without a readiness probe a running instance serves. -/
def enter (restarts : Nat) (thresholds : PerKind (Option Thresholds)) : Health where
  lifecycle := if thresholds.startup.isSome then .starting else .running
  serving := thresholds.startup.isNone && thresholds.readiness.isNone
  restarts := restarts
  streaks := .replicate .zero
  thresholds := thresholds

/-- The health of an instance that was launched for the first time. -/
def ofProbes (probes : ProbeSet) : Health :=
  enter 0 (probes.map (·.map Thresholds.ofProbe))

/-- The health of the instance that takes the place of this one. -/
def restarted (health : Health) : Health :=
  enter (health.restarts + 1) health.thresholds

/-- A startup answer: the first success starts the instance, enough failures give it up. -/
def observeStartup (health : Health) (thresholds : Thresholds) (success : Bool) :
    Health × List HealthAction :=
  let streak := health.streaks.startup.record success
  let counted := { health with streaks := health.streaks.set .startup streak }
  if success then
    if health.thresholds.readiness.isNone then
      ({ counted with lifecycle := .running, serving := true }, [.started, .addToRouting])
    else ({ counted with lifecycle := .running }, [.started])
  else if thresholds.failure ≤ streak.failures then
    ({ counted with lifecycle := .failedToStart }, [.startupFailed])
  else (counted, [])

/-- A liveness answer: enough failures take the instance out of routing and restart it. -/
def observeLiveness (health : Health) (thresholds : Thresholds) (success : Bool) :
    Health × List HealthAction :=
  let streak := health.streaks.liveness.record success
  let counted := { health with streaks := health.streaks.set .liveness streak }
  if !success && thresholds.failure ≤ streak.failures then
    ({ counted with lifecycle := .restarting, serving := false },
      if health.serving then [.removeFromRouting, .restart] else [.restart])
  else (counted, [])

/-- A readiness answer: enough of one sort switch whether the instance serves. -/
def observeReadiness (health : Health) (thresholds : Thresholds) (success : Bool) :
    Health × List HealthAction :=
  let streak := health.streaks.readiness.record success
  let counted := { health with streaks := health.streaks.set .readiness streak }
  if success && !health.serving && thresholds.success ≤ streak.successes then
    ({ counted with serving := true }, [.addToRouting])
  else if !success && health.serving && thresholds.failure ≤ streak.failures then
    ({ counted with serving := false }, [.removeFromRouting])
  else (counted, [])

/-- Takes in one answer. Startup answers count only while the instance starts and the other answers
only while it runs; an answer to a probe that the service does not have counts never. -/
def observe (health : Health) (kind : ProbeKind) (success : Bool) : Health × List HealthAction :=
  match health.thresholds.get kind with
  | none => (health, [])
  | some thresholds =>
    match health.lifecycle, kind with
    | .starting, .startup => health.observeStartup thresholds success
    | .running, .liveness => health.observeLiveness thresholds success
    | .running, .readiness => health.observeReadiness thresholds success
    | _, _ => (health, [])

end Health

end Convoy

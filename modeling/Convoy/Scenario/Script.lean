import Convoy.Scenario.Connection
import Convoy.Scenario.Rehearsal

/-!
# Scripts

Surroundings of a supervisor that are written down: for each service how its instances behave, for
each target when it accepts connections, and for each probe when it passes.
-/

namespace Convoy.Scenario

/-- How the instances of one service behave. -/
structure ServiceScript where
  /-- For each start, in order, when after it and with which status the instance exits. -/
  exits : List (Option (Duration × Option Int))
  startTime : Duration
  stopTime : Duration
  /-- The numbers of the starts that fail. -/
  failStarts : List Nat
  failStop : Bool
  failWait : Bool

namespace ServiceScript

def standard : ServiceScript := ⟨[], .zero, .zero, [], false, false⟩

/-- When after its start and with which status an instance exits, if it does. A one-shot instance
ends well after a second unless the script knows better. -/
def exit? (script : ServiceScript) (oneShot : Bool) (number : Nat) :
    Option (Duration × Option Int) :=
  match script.exits[number]? with
  | some exit => exit
  | none => if oneShot then some (.ofSeconds 1, some 0) else none

end ServiceScript

/-- What the surroundings of a supervisor do. -/
structure Script where
  services : Dictionary ServiceScript
  connections : ConnectionScript
  /-- Whether probes pass, by host and handler; a probe that is not listed passes. -/
  probes : Dictionary (Timeline Bool)
  shutdown : Duration

namespace Script

def service (script : Script) (name : String) : ServiceScript :=
  (script.services.get? name).getD .standard

/-- What comes of a start. -/
def start (script : Script) (service : Service) (number : Nat) : StartPlan :=
  let found := script.service service.name
  { delay := found.startTime
    failure := if found.failStarts.contains number then
      some (SupervisorError.startFailed service.name "scripted" : Failure) else none
    exit := found.exit? service.role.isOneShot number }

/-- What comes of a stop. -/
def stop (script : Script) (service : String) : StopPlan :=
  let found := script.service service
  ⟨found.stopTime, if found.failStop then some (.ofText "scripted stop failure") else none⟩

/-- The surroundings that a script describes. -/
def surroundings (script : Script) : Surroundings where
  start := fun service number _ => script.start service number
  stop := script.stop
  waitFailure := fun service =>
    if (script.service service).failWait then some (.ofText "scripted wait failure") else none
  latency := fun target _ budget =>
    ((script.connections.get? target.target).map (·.delay budget)).getD .zero
  refusal := fun latestStart target _ budget now =>
    (script.connections.get? target.target).bind fun rule => rule.refusal latestStart budget now
  probe := fun host probe now =>
    ((script.probes.get? (Rehearsal.probeKey host probe.handler)).bind fun timeline =>
      Timeline.at? timeline now).getD true
  shutdown := fun _ => some script.shutdown

end Script

end Convoy.Scenario

import Convoy.CommandLine.Invocation
import Convoy.CommandLine.Overview
import Convoy.CommandLine.World
import Convoy.Compose
import Convoy.Process
import Convoy.Scenario.Rehearsal
import Convoy.Tree.Json

/-!
# Running commands

What each command prints and how it ends. Commands that start programs do so in virtual time.
-/

namespace Convoy.CommandLine

open Scenario

namespace World

/-! ## Starting everything -/

/-- The deed of an instance. -/
def deedOf (world : World) (service : Service) (assignments : Dictionary String) :
    Except SupervisorError Deed :=
  ProcessTable.deedOf service.name service.command (world.inherited.union assignments)

/-- The deed behind a start that has succeeded. -/
def deedOfLaunch? (world : World) (topology : Topology) (launch : Launch) : Option Deed := do
  let service ← topology.service? launch.live.slot.service
  (world.deedOf service launch.environment).toOption

/-- How long it takes until somebody who waits for a file has interrupted the command. -/
def reaction : Duration := .ofMillis 50

/-- When the command is interrupted: when the first instance has created the file. -/
def interrupt? (world : World) (topology : Topology) (launches : List Launch) :
    Option Duration := do
  let path ← world.interruptedBy
  let first ← launches.reverse.find? fun launch =>
    (world.deedOfLaunch? topology launch).any (·.touched.contains path)
  return first.moment + reaction

/-- The surroundings of a supervisor whose instances are programs. -/
def surroundings (world : World) (topology : Topology) : Surroundings where
  start := fun service _ assignments =>
    match world.deedOf service assignments with
    | .ok deed => ⟨.zero, none, deed.exit⟩
    | .error error => ⟨.zero, some (error : Failure), none⟩
  stop := fun _ => ⟨.zero, none⟩
  waitFailure := fun _ => none
  latency := fun target started budget => (world.network.connector target started budget).delay
  refusal := fun _ target started budget _ =>
    (world.network.connector target started budget).refusal
  probe := world.network.probe
  shutdown := world.interrupt? topology

/-- How many steps a run may take. -/
def stepLimit : Nat := 0x10000000000

/-- What is told about a task that crashed. -/
def crashText (_ : String) : String := "task panicked"

/-- Starts and supervises a topology until it fails or the command is interrupted. -/
def up (world : World) (topology : Topology) (profile : Profile) (options : SupervisorOptions) :
    Outcome :=
  let terminal := world.terminal
  let environments := do
    topology.environments (← topology.resolveSecrets profile world.environment)
  match environments with
  | .error failure => .failed terminal "" failure
  | .ok environments =>
    let header := terminal.header s!"Starting {topology.name} ({profile.name} profile)"
    let supervisor : Supervisor := ⟨topology, environments, options, toString, crashText⟩
    let done := (Rehearsal.initial supervisor (world.surroundings topology)).proceed stepLimit
    let printed := String.join (done.record.launches.reverse.map fun launch =>
      ((world.deedOfLaunch? topology launch).map (·.output)).getD "")
    match done.outcome? with
    | some (.error failure) => .failed terminal (header ++ printed) failure
    | _ => .done (header ++ printed ++ terminal.success "All services stopped")

/-! ## The other commands -/

/-- Runs a program in place of this one, once targets accept connections. -/
def waitFor (world : World) (targets : List String) (timeout interval : Duration)
    (command : List String) : Outcome :=
  let failed (failure : Failure) : Outcome := .failed world.terminal "" failure
  match command with
  | [] =>
    failed (.ofText "No command given after \x60--\x60; nothing to run once targets are reachable")
  | program :: _ =>
    match targets.mapM Address.read with
    | .error error => failed error
    | .ok addresses =>
      match (Gate.waitAll .exact world.network.connector addresses timeout interval .zero).result with
      | .error cause => failed (.ofCause cause)
      | .ok _ =>
        match Program.execute? world.inherited command with
        | none =>
          failed
            ((Failure.ofText "cannot find binary path").within s!"Command not found: {program}")
        | some deed =>
          let code := ((deed.exit.bind (·.2)).getD 137).toNat
          ⟨code, deed.output, "", none⟩

/-- Checks a topology and the secrets for a profile. -/
def check (world : World) (topology : Topology) (profile : Profile) : Outcome :=
  match topology.resolveSecrets profile world.environment with
  | .error failure => .failed world.terminal "" failure
  | .ok secrets => .done (topology.checkText world.terminal profile secrets)

/-- Prints a plan. -/
def plan (world : World) (topology : Topology) (json : Bool) : Outcome :=
  let plan := Plan.ofTopology topology
  .done (if json then plan.toTree.json ++ "\n" else plan.text world.terminal)

/-- Prints a document, or writes it to a file. -/
def render (world : World) (topology : Topology) (profile : Profile) (output : Option String) :
    Outcome :=
  match Compose.ofTopology topology profile with
  | .error failure => .failed world.terminal "" failure
  | .ok document =>
    match output with
    | none => .done document.text
    | some path =>
      match world.writeError? path with
      | some reason =>
        .failed world.terminal "" ((Failure.ofText reason).within s!"Failed to write {path}")
      | none =>
        { Outcome.done (world.terminal.success s!"Rendered {path} ({profile.name} profile)") with
          written := some (path, document.text) }

/-- Does what a command line asks for. -/
def run (world : World) (invocation : Invocation) : Outcome :=
  match invocation.task with
  | .waitFor targets timeout interval command => world.waitFor targets timeout interval command
  | task =>
    match world.loadTopology invocation.topology with
    | .error failure => .failed world.terminal "" failure
    | .ok topology =>
      match task with
      | .waitFor .. => .done ""
      | .plan json => world.plan topology json
      | .check => world.check topology invocation.profile
      | .render output => world.render topology invocation.profile output
      | .up maxRestarts localProcesses =>
        world.up topology invocation.profile
          { SupervisorOptions.standard with
            maxRestarts := maxRestarts
            hostOverride := if localProcesses then some "127.0.0.1" else none }

/-- The text about the version. -/
def version : String := "stackgate 0.1.0"

/-- Reads a command line and does what it asks for. -/
def execute (world : World) (words : List String) : Outcome :=
  match Invocation.read world.environment words with
  | .error refusal => .refused version refusal
  | .ok invocation => world.run invocation

end World

end Convoy.CommandLine

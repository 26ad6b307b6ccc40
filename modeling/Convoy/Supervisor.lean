import Convoy.Launch
import Convoy.Routing

/-!
# Supervisors

A supervisor brings up a topology, keeps its instances healthy and takes it down again. It is a
machine that reacts to what happens around it: for each happening there is a move, which consists of
the next state and of what the supervisor does on the way. This module has what the parts of the
machine share.
-/

namespace Convoy

/-- The identity of an instance. A launch that succeeds gives one that no earlier instance has, as
every runtime does: a restart yields a new identity too. The identities are therefore numbered in the
order of the launches; how they are written is left to the runtime. -/
abbrev InstanceId := Nat

/-- One launched instance and the place it fills. -/
structure Instance where
  slot : Slot
  id : InstanceId
  deriving DecidableEq

/-- What a supervisor reports about a service. -/
inductive Occurrence where
  | gatePassed (dependency : String)
  | started (index : Nat)
  | completed
  | restarted (index restarts : Nat)
  | stopped (index : Nat)
  deriving DecidableEq

/-- What a supervisor asks of its surroundings; a later happening brings the answer. -/
inductive Request where
  | start (slot : Slot) (environment : Dictionary String)
  | stop (target : Instance)
  | awaitExit (target : Instance)
  /-- An attempt to connect, on behalf of a service that is starting. -/
  | connect (service : String) (target : Address) (budget : Duration)
  deriving DecidableEq

/-- What a supervisor does in a move. -/
inductive Effect where
  | request (request : Request)
  | event (service : String) (occurrence : Occurrence)
  | line (line : LogLine)
  deriving DecidableEq

/-- Where a move leads, and what is done on the way, in order. -/
structure Move (α : Type) where
  next : α
  effects : List Effect

namespace Move

variable {α β : Type}

/-- A move in which nothing is done. -/
def still (next : α) : Move α := ⟨next, []⟩

def map (transform : α → β) (move : Move α) : Move β := ⟨transform move.next, move.effects⟩

/-- A move with something done before it. -/
def after (effects : List Effect) (move : Move α) : Move α :=
  { move with effects := effects ++ move.effects }

/-- One move and then another. -/
def andThen (move : Move α) (further : α → Move β) : Move β :=
  (further move.next).after move.effects

end Move

/-- How a topology is supervised. -/
structure SupervisorOptions where
  /-- How often one slot may be restarted. -/
  maxRestarts : Nat
  /-- The host that takes the place of every other one. -/
  hostOverride : Option String
  /-- The distance between attempts to pass a gate. -/
  pollInterval : Duration
  deriving DecidableEq

namespace SupervisorOptions

def standard : SupervisorOptions where
  maxRestarts := 5
  hostOverride := none
  pollInterval := Gate.standardInterval

end SupervisorOptions

/-- A topology with all that is needed to bring it up. -/
structure Supervisor where
  topology : Topology
  /-- The variables of each service. -/
  environments : Dictionary (Dictionary String)
  options : SupervisorOptions
  /-- How an instance is written in the log. -/
  instanceText : InstanceId → String
  /-- How it is told that the task crashed that starts a service. -/
  crashText : String → String

namespace Supervisor

/-- The variables of a service; a service without an entry has none. -/
def environment (supervisor : Supervisor) (service : String) : Dictionary String :=
  (supervisor.environments.get? service).getD .empty

/-- The host at which the instances of a service are probed. -/
def hostFor (supervisor : Supervisor) (service : Service) : String :=
  supervisor.options.hostOverride.getD ((service.endpoint.map (·.host)).getD service.name)

/-- A gate as the supervisor waits at it. -/
def adapted (supervisor : Supervisor) (gate : Gate) : Gate :=
  (match supervisor.options.hostOverride with
    | some host => gate.withHost host
    | none => gate).withInterval supervisor.options.pollInterval

/-- The gate at which a service waits for a dependency. -/
def gateFor? (supervisor : Supervisor) (service : Service) (dependency : String) : Option Gate :=
  ((supervisor.topology.gates service).find? (·.dependency == dependency)).map fun found =>
    supervisor.adapted found.gate

/-- The request to launch an instance. -/
def startRequest (supervisor : Supervisor) (slot : Slot) : Effect :=
  .request (.start slot (supervisor.environment slot.service))

end Supervisor

/-- What all parts of a supervisor write on. -/
structure Board where
  /-- The live instances, in the order in which their slots were filled first. -/
  running : List Instance
  routing : Routing
  /-- How many launches have succeeded, which is the number of the next instance. -/
  launches : Nat
  deriving DecidableEq

namespace Board

def empty : Board := ⟨[], .empty, 0⟩

/-- The instance that fills a slot if its launch succeeds now. -/
def nextInstance (board : Board) (slot : Slot) : Instance := ⟨slot, board.launches⟩

/-- A first launch succeeded. -/
def enter (board : Board) (slot : Slot) : Board :=
  { board with
    running := board.running ++ [board.nextInstance slot]
    launches := board.launches + 1 }

/-- A new instance took the place of another one. -/
def replace (board : Board) (slot : Slot) : Board :=
  { board with
    running := board.running.map fun live =>
      if live.slot = slot then board.nextInstance slot else live
    launches := board.launches + 1 }

/-- An instance has come to its end by itself. -/
def forget (board : Board) (id : InstanceId) : Board :=
  { board with running := board.running.filter (·.id != id) }

def route (board : Board) (slot : Slot) : Board :=
  { board with routing := board.routing.insert slot }

def unroute (board : Board) (slot : Slot) : Board :=
  { board with routing := board.routing.erase slot }

end Board

end Convoy

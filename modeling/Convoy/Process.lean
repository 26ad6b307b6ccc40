import Convoy.Program
import Convoy.Supervisor

/-!
# Processes

The instances of services as processes: a process is launched from a command, can be waited for, and
is forgotten when it is stopped.
-/

namespace Convoy

/-- A launched process and what it does. -/
structure Process where
  id : InstanceId
  deed : Deed
  deriving DecidableEq

/-- The processes that have not been stopped. -/
structure ProcessTable where
  processes : List Process
  launches : Nat
  deriving DecidableEq

namespace ProcessTable

def empty : ProcessTable := ⟨[], 0⟩

/-- What the command of a service does, or why it cannot be launched. -/
def deedOf (service : String) (command : List String) (assignments : Dictionary String) :
    Except SupervisorError Deed :=
  match command with
  | [] => .error (.startFailed service "no command configured")
  | program :: _ =>
    match Program.execute? assignments command with
    | some deed => .ok deed
    | none => .error (.startFailed service s!"{program}: cannot find binary path")

/-- Launches a process for a service. -/
def start (table : ProcessTable) (service : String) (command : List String)
    (assignments : Dictionary String) : Except SupervisorError (InstanceId × ProcessTable) := do
  let deed ← deedOf service command assignments
  return (table.launches, ⟨⟨table.launches, deed⟩ :: table.processes, table.launches + 1⟩)

/-- How a process ends; nothing is known about one that has been stopped. The text of its number
goes into the message. -/
def exitOf (table : ProcessTable) (id : InstanceId) (shown : String) :
    Except Failure (Option (Duration × Option Int)) :=
  match table.processes.find? (·.id == id) with
  | some process => .ok process.deed.exit
  | none => .error (.ofText s!"Unknown instance {shown}")

/-- Stops a process; it does not matter whether there is one. -/
def stop (table : ProcessTable) (id : InstanceId) : ProcessTable :=
  { table with processes := table.processes.filter (·.id != id) }

end ProcessTable

end Convoy

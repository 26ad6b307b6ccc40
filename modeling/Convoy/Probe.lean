import Convoy.Duration

/-!
# Probes

A probe asks an instance for an answer at regular intervals. There are three kinds, and a service
may have one probe of each kind.
-/

namespace Convoy

/-- What the answers to a probe decide. -/
inductive ProbeKind where
  /-- Whether the instance has started. -/
  | startup
  /-- Whether the instance has to be restarted. -/
  | liveness
  /-- Whether the instance receives traffic. -/
  | readiness
  deriving DecidableEq

namespace ProbeKind

/-- The kinds in the order in which they are listed. -/
def all : List ProbeKind := [startup, liveness, readiness]

def name : ProbeKind → String
  | startup => "startup"
  | liveness => "liveness"
  | readiness => "readiness"

end ProbeKind

/-- One value for each kind of probe. -/
structure PerKind (α : Type) where
  startup : α
  liveness : α
  readiness : α
  deriving DecidableEq

namespace PerKind

variable {α β : Type}

def get (values : PerKind α) : ProbeKind → α
  | .startup => values.startup
  | .liveness => values.liveness
  | .readiness => values.readiness

/-- The same values but for one kind. -/
def set (values : PerKind α) (kind : ProbeKind) (value : α) : PerKind α :=
  match kind with
  | .startup => { values with startup := value }
  | .liveness => { values with liveness := value }
  | .readiness => { values with readiness := value }

def replicate (value : α) : PerKind α := ⟨value, value, value⟩

def map (transform : α → β) (values : PerKind α) : PerKind β :=
  ⟨transform values.startup, transform values.liveness, transform values.readiness⟩

@[simp]
theorem get_set_self (values : PerKind α) (kind : ProbeKind) (value : α) :
    (values.set kind value).get kind = value := by
  cases kind <;> rfl

theorem get_set_of_ne
    (values : PerKind α) {kind other : ProbeKind} (value : α) (different : other ≠ kind) :
    (values.set kind value).get other = values.get other := by
  cases kind <;> cases other <;> first | rfl | exact absurd rfl different

@[simp]
theorem get_replicate (kind : ProbeKind) (value : α) : (replicate value).get kind = value := by
  cases kind <;> rfl

@[simp]
theorem get_map (transform : α → β) (values : PerKind α) (kind : ProbeKind) :
    (values.map transform).get kind = transform (values.get kind) := by
  cases kind <;> rfl

end PerKind

/-- The protocol of an HTTP probe. -/
inductive Scheme where
  | http
  | https
  deriving DecidableEq

namespace Scheme

def name : Scheme → String
  | http => "http"
  | https => "https"

end Scheme

/-- How an instance is asked. -/
inductive ProbeHandler where
  | httpGet (path : String) (port : UInt16) (scheme : Scheme)
  | tcpSocket (port : UInt16)
  deriving DecidableEq

namespace ProbeHandler

def port : ProbeHandler → UInt16
  | httpGet _ port _ => port
  | tcpSocket port => port

def text : ProbeHandler → String
  | httpGet path port scheme => scheme.name ++ " :" ++ toString port.toNat ++ path
  | tcpSocket port => "tcp :" ++ toString port.toNat

end ProbeHandler

/-- One probe: whom it asks, how often, and how many answers in a row count. -/
structure Probe where
  handler : ProbeHandler
  initialDelay : Duration
  period : Duration
  timeout : Duration
  failureThreshold : Nat
  successThreshold : Nat
  deriving DecidableEq

namespace Probe

/-- The probe of a handler with the usual timing and thresholds. -/
def ofHandler (handler : ProbeHandler) : Probe where
  handler := handler
  initialDelay := .zero
  period := .ofSeconds 10
  timeout := .ofSeconds 1
  failureThreshold := 3
  successThreshold := 1

end Probe

/-- The probes of a service, at most one of each kind. -/
abbrev ProbeSet := PerKind (Option Probe)

namespace ProbeSet

def none : ProbeSet := .replicate .none

/-- The probes there are, with their kinds. -/
def toList (probes : ProbeSet) : List (ProbeKind × Probe) :=
  ProbeKind.all.filterMap fun kind => (probes.get kind).map (kind, ·)

def isEmpty (probes : ProbeSet) : Bool := probes.toList.isEmpty

end ProbeSet

end Convoy

import Convoy.Address
import Convoy.Dictionary
import Convoy.Probe
import Convoy.Text.Case

/-!
# Services

What a stack declares about each of its services, and about the volumes that they share.
-/

namespace Convoy

/-- The part that a service plays in a stack. -/
inductive Role where
  | store
  | broker
  | initializer
  | worker
  | scheduler
  | appServer
  | edgeProxy
  deriving DecidableEq

namespace Role

def all : List Role := [store, broker, initializer, worker, scheduler, appServer, edgeProxy]

def name : Role → String
  | store => "store"
  | broker => "broker"
  | initializer => "initializer"
  | worker => "worker"
  | scheduler => "scheduler"
  | appServer => "app_server"
  | edgeProxy => "edge_proxy"

/-- The other name under which some roles are known. -/
def alias? : Role → Option String
  | store => some "database"
  | broker => some "cache"
  | appServer => some "app"
  | edgeProxy => some "proxy"
  | _ => none

/-- The role that a text names; letter case does not matter, and a hyphen is as good as an
underscore. -/
def read? (text : String) : Option Role :=
  let word := String.ofList ((Text.lower text).toList.map fun character =>
    if character == '-' then '_' else character)
  all.find? fun role => role.name == word || role.alias? == some word

/-- A one-shot service runs to its end instead of being kept alive. -/
def isOneShot (role : Role) : Bool := role == initializer

end Role

/-- What a service needs from a dependency before it starts. -/
inductive Condition where
  /-- The dependency accepts connections. -/
  | reachable
  /-- The dependency, a one-shot service, has ended well. -/
  | completed
  deriving DecidableEq

namespace Condition

def name : Condition → String
  | reachable => "reachable"
  | completed => "completed"

end Condition

/-- One service that has to come first. -/
structure Dependency where
  service : String
  condition : Condition
  deriving DecidableEq

/-- Where a volume appears in a service. -/
structure Mount where
  volume : String
  path : String
  readOnly : Bool
  deriving DecidableEq

/-- Storage that outlives services, for one set of data. -/
structure Volume where
  name : String
  dataset : String
  deriving DecidableEq

/-- The declaration of one service. -/
structure Service where
  name : String
  role : Role
  image : String
  command : List String
  endpoint : Option Address
  environment : Dictionary String
  /-- For each variable the name of the secret whose value it gets. -/
  secrets : Dictionary String
  dependsOn : List Dependency
  probes : ProbeSet
  volumes : List Mount
  replicas : Nat
  readinessTimeout : Duration
  deriving DecidableEq

end Convoy

import Convoy.Initializer.Store

/-!
# Scripted stores

A store in memory of which some calls fail.
-/

namespace Convoy.Scenario

/-- The names of the calls that fail. -/
abbrev StoreScript := List String

namespace StoreScript

/-- The failure of a call, if the script wants it to fail. -/
def failure? (script : StoreScript) (name : String) : Option Failure :=
  if script.contains name then some (.ofText s!"scripted {name} failure") else none

/-- The name by which a script knows a call. -/
def nameOf : StoreCall → String
  | .migrate => "migrate"
  | .seed _ => "seed"
  | .create _ => "create"

/-- A call that fails leaves the store as it is. -/
def behaviour (script : StoreScript) : StoreBehaviour Store where
  connect := fun _ store =>
    match script.failure? "open" with
    | some failure => (.error failure, store)
    | none => (.ok (), store)
  answer := fun call store =>
    match script.failure? (nameOf call) with
    | some failure => (.error failure, store)
    | none =>
      let (answer, after) := store.answer call
      (.ok answer, after)

end StoreScript

end Convoy.Scenario

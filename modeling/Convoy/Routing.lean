import Convoy.Dictionary

/-!
# Routing

The table of the instances that get traffic: for each service the numbers of its slots, in
increasing order. A service without such a slot is not in the table.
-/

namespace Convoy

/-- One of the places for instances that a service has. -/
structure Slot where
  service : String
  index : Nat
  deriving DecidableEq

namespace Slot

def text (slot : Slot) : String := s!"{slot.service}[{slot.index}]"

end Slot

/-- The slots that get traffic, by service. -/
structure Routing where
  table : Dictionary (List Nat)
  deriving DecidableEq

namespace Routing

/-- Puts a number where it belongs among increasing ones, once. -/
def insertIndex (index : Nat) : List Nat → List Nat
  | [] => [index]
  | first :: rest =>
    if index < first then index :: first :: rest
    else if first < index then first :: insertIndex index rest
    else first :: rest

def empty : Routing := ⟨.empty⟩

/-- The slots of a service that get traffic, in increasing order. -/
def slots (routing : Routing) (service : String) : List Nat :=
  (routing.table.get? service).getD []

def contains (routing : Routing) (slot : Slot) : Bool :=
  (routing.slots slot.service).contains slot.index

/-- Gives a slot traffic. -/
def insert (routing : Routing) (slot : Slot) : Routing :=
  ⟨routing.table.insert slot.service (insertIndex slot.index (routing.slots slot.service))⟩

/-- Takes traffic from a slot; a service that has no other slot leaves the table. -/
def erase (routing : Routing) (slot : Slot) : Routing :=
  match (routing.slots slot.service).filter (· != slot.index) with
  | [] => ⟨routing.table.erase slot.service⟩
  | others => ⟨routing.table.insert slot.service others⟩

/-- Gives a slot traffic, and tells whether it had none before. -/
def add (routing : Routing) (slot : Slot) : Bool × Routing :=
  (!routing.contains slot, routing.insert slot)

/-- Takes traffic from a slot, and tells whether it had some before. -/
def remove (routing : Routing) (slot : Slot) : Bool × Routing :=
  (routing.contains slot, routing.erase slot)

end Routing

end Convoy

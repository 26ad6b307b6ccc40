import Convoy.Error
import Convoy.Text.Blank

/-!
# Addresses

A host and a port. In the plain text the two are joined by a colon; in the target text, which can be
read back, a host that holds a colon itself stands in brackets.
-/

namespace Convoy

/-- Where a service listens. -/
structure Address where
  host : String
  port : UInt16
  deriving DecidableEq

namespace Address

/-- Host and port joined by a colon, whatever the host looks like. -/
def plain (address : Address) : String :=
  address.host ++ ":" ++ toString address.port.toNat

/-- The text that names an address as a target. -/
def target (address : Address) : String :=
  if address.host.toList.contains ':' then
    "[" ++ address.host ++ "]:" ++ toString address.port.toNat
  else address.plain

/-- A host without the brackets around it. -/
def unbracket (host : List Char) : List Char :=
  Text.dropEndWhile (· == ']') (host.dropWhile (· == '['))

/-- A port number as a target spells it; zero names no port. -/
def port? (digits : List Char) : Option UInt16 :=
  match Text.unsigned? digits with
  | some number => if 0 < number ∧ number < 65536 then some (UInt16.ofNat number) else none
  | none => none

/-- Reads a target: the port follows the last colon, and the host must not be empty. -/
def read? (text : String) : Option Address := do
  let (before, after) ← Text.splitLast? ':' text.toList
  let host := unbracket before
  if host.isEmpty then none
  else
    let port ← port? after
    return ⟨String.ofList host, port⟩

/-- Reads a target or says which text is none. -/
def read (text : String) : Except GateError Address :=
  match read? text with
  | some address => .ok address
  | none => .error (.invalidTarget text)

end Address

end Convoy

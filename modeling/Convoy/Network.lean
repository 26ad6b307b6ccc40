import Convoy.Gate
import Convoy.Probe

/-!
# Networks

A network is known by how it answers: to attempts to connect, and to HTTP requests. A probe passes
if its port accepts a connection or if its request is answered with success or with a redirection.
-/

namespace Convoy

/-- How a network answers. -/
structure Network where
  connector : Connector
  /-- What comes back for an HTTP request to an address within a time, if anything does. -/
  exchange : Scheme → Address → String → Duration → Option String

namespace Network

/-- A network in which nothing can be reached. -/
def isolated : Network where
  connector := fun _ _ _ => ⟨.zero, some "connection refused"⟩
  exchange := fun _ _ _ _ => none

/-- The status of an HTTP response, if it has one. -/
def statusOf? (response : String) : Option Nat :=
  let line := response.toList.takeWhile fun character => character != '\r' && character != '\n'
  match Text.splitChars ' ' line with
  | version :: code :: _ =>
    if (version = "HTTP/1.0".toList ∨ version = "HTTP/1.1".toList) ∧ code.length = 3 then
      match code with
      | '+' :: _ => none
      | _ => Text.unsigned? code
    else none
  | _ => none

/-- Whether a status means success or redirection. -/
def isGood (status : Nat) : Bool := 200 ≤ status && status < 400

/-- Whether a probe of a host passes at an instant. -/
def probe (network : Network) (host : String) (probe : Probe) (now : Duration) : Bool :=
  match probe.handler with
  | .tcpSocket port => (network.connector ⟨host, port⟩ now probe.timeout).refusal.isNone
  | .httpGet path port scheme =>
    ((network.exchange scheme ⟨host, port⟩ path probe.timeout).bind statusOf?).any isGood

end Network

end Convoy

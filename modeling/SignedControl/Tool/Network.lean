import SignedControl.Text.Split
import SignedControl.Tool.Arguments

/-!
# Networks

A tool that needs the network names an address, a host and the number of a service there with a
colon between them, and is told whether it can have a connection. What the network is like is up to
whoever runs the tool.
-/

namespace SignedControl.Tool

/-- Why an address cannot be used. -/
inductive NetworkError where
  /-- There is no colon in it. -/
  | noService
  /-- What follows the last colon is no service number. -/
  | badService
  /-- No way leads there. -/
  | unreachable
  /-- Nobody listens there. -/
  | refused
deriving DecidableEq, Repr

/-- The wording of a network error. -/
def NetworkError.message : NetworkError → String
  | .noService => "invalid socket address"
  | .badService => "invalid port value"
  | .unreachable => "Network is unreachable (os error 101)"
  | .refused => "Connection refused (os error 111)"

/-- A host and a service there. -/
structure Endpoint where
  /-- The host. -/
  host : String
  /-- The number of the service. -/
  service : UInt16
deriving DecidableEq, Repr

/-- The service number that a text spells, perhaps with a plus sign. -/
def readService? (text : List Char) : Option UInt16 :=
  let digits := match text with
    | '+' :: digits => digits
    | digits => digits
  (natOfDigits? digits).bind fun n => if n < UInt16.size then some (UInt16.ofNat n) else none

/-- The host and the service that an address names. The last colon stands between them. -/
def Endpoint.ofAddress (address : String) : Except NetworkError Endpoint :=
  match Text.cut? ':' address.toList.reverse with
  | none => .error .noService
  | some (number, host) =>
    match readService? number.reverse with
    | some service => .ok ⟨String.ofList host.reverse, service⟩
    | none => .error .badService

/-- What becomes of an attempt to use an endpoint. -/
structure Network where
  /-- Whether one may listen at an endpoint, or connect to it. -/
  reach : Endpoint → Except NetworkError Unit

namespace Network

/-- A network that leads nowhere. -/
def unreachable : Network := ⟨fun _ => .error .unreachable⟩

/-- Tries to use an address. -/
def use (n : Network) (address : String) : Except NetworkError Unit :=
  Endpoint.ofAddress address >>= n.reach

end Network

end SignedControl.Tool

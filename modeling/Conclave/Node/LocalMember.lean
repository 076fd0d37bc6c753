import Conclave.Endpoint
import Conclave.Fault
import Conclave.Ip.Text

/-!
# Which member is the local one

A member of the list is the local one when it is the public endpoint, or when its port is the
one that is listened on and its host is the loopback or an address of this host. Exactly one
position of the list has to match.
-/

namespace Conclave.Node

/-- What is known of the host that a node runs on. -/
structure Host where
  addresses : List Ip.Address
  publicEndpoint : Option String
  port : UInt16
deriving DecidableEq

namespace Host

/-- The address that the host part of an endpoint names without a look-up. -/
def literal? (host : String) : Option Ip.Address :=
  if Text.sameLetters host "localhost" then some (.v4 0x7f000001) else Ip.Address.read? host

def isAt (h : Host) (member : String) : Bool :=
  h.publicEndpoint == some member ||
    match Endpoint.read? member with
    | none => false
    | some e =>
      e.port == h.port &&
        match literal? e.host with
        | none => false
        | some a => a.isLoopback || h.addresses.contains a

def resolve (h : Host) (members : List String) : Except Fault String :=
  match members.filter h.isAt with
  | [m] => .ok m
  | [] =>
    .error (.localUnresolved
      (.noMatch members (h.addresses.map Ip.Address.text) h.port.toNat))
  | many => .error (.localUnresolved (.ambiguous many))

end Host

end Conclave.Node

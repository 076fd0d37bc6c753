import Conclave.Node.Bus
import Conclave.Wire.Request

/-!
# Dispatch of inbound requests

A request that can be decoded goes to the part of the node that its kind asks for.
-/

namespace Conclave.Node

open Wire

variable {ω : Type} [Surroundings ω]

def route (n : Node ω) : Request → Node ω × Ending (Except Fault Reply)
  | .requestVote sender request =>
    let (n, reply) := n.receiveVote sender request
    (n, .returned reply)
  | .appendEntries sender request =>
    let (n, reply) := n.receiveOrder sender (.entries request)
    (n, .returned reply)
  | .installSnapshot sender header snapshot =>
    let (n, reply) := n.receiveOrder sender (.snapshot header snapshot)
    (n, .returned reply)
  | .resign sender =>
    let (n, reply) := n.receiveOrder sender .resign
    (n, .returned reply)
  | .metadata sender =>
    let (n, reply) := n.tellMetadata sender
    (n, .returned (.ok reply))
  | .custom d => n.receiveMessage d

def dispatch (n : Node ω) (fields : Fields) (body : Body) :
    Node ω × Ending (Except Fault Reply) :=
  match Request.decode fields body with
  | .error fault => (n, .returned (.error fault))
  | .ok request => n.route request

end Conclave.Node

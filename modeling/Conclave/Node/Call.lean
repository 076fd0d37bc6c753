import Conclave.Node.Background

/-!
# Calls to members

A call is bounded by its caller and by the member's own life. Both are looked at before the
call is sent, the caller first, and again when a call that was sent does not come to an end. A
call that is given up shows nothing of the member; one that a removed member ends counts as not
reaching it.
-/

namespace Conclave.Node

open Wire

variable {ω : Type} [Surroundings ω]

/-- How a call ends that is not answered: given up, ended by the member's removal, or not yet. -/
def interruption (n : Node ω) (bound : Bound) (id : MemberId) (address : String) :
    Option Fault :=
  if n.isGivenUp bound then some .canceled
  else if n.isClosed id then some (.unreachable address .removed)
  else none

def interrupted (n : Node ω) (id : MemberId) (fault : Fault) : Node ω :=
  n.updateMember id fun m => m.learn n.now (Except.error fault : Except Fault Unit)

def call (n : Node ω) (bound : Bound) (id : MemberId) (outbound : Outbound) :
    Node ω × Ending (Except Fault outbound.Answer) :=
  match n.member? id with
  | none => (n, .never)
  | some m =>
    match n.interruption bound id m.address with
    | some fault => (n.interrupted id fault, .returned (.error fault))
    | none =>
      match Surroundings.transmit n.world m.address outbound with
      | (world, controls, .returned result) =>
        let n := n.after world controls
        (n.updateMember id fun m => m.learn n.now result, .returned result)
      | (world, controls, .never) =>
        let n := (n.after world controls).pause
        match n.interruption bound id m.address with
        | some fault => (n.interrupted id fault, .returned (.error fault))
        | none => (n, .never)

end Conclave.Node

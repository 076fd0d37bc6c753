import Conclave.Fault

/-!
# Members and their liveness

What a node knows of a member from its own calls. An answer of whatever status shows that the
member is there; a call that does not reach it shows the opposite; all other ends of a call
show nothing.
-/

namespace Conclave.Node

abbrev Time := Nat

/-- Whether a member answers, as far as the last call showed. -/
inductive Liveness where
  | unknown | available | unavailable
deriving DecidableEq, Repr

def Liveness.label : Liveness → String
  | unknown => "UNKNOWN"
  | available => "AVAILABLE"
  | unavailable => "UNAVAILABLE"

def Liveness.word : Liveness → String
  | unknown => "Unknown"
  | available => "Available"
  | unavailable => "Unavailable"

/-- A member as a node holds it. `canceled` tells whether it was closed itself; it is closed
also when the node's lifetime is over. -/
structure Member where
  address : String
  liveness : Liveness
  lastContact : Option Time
  canceled : Bool
deriving DecidableEq, Repr

namespace Member

def new (address : String) : Member := ⟨address, .unknown, none, false⟩

def touch (m : Member) (now : Time) : Member := { m with lastContact := some now }

def close (m : Member) : Member := { m with canceled := true }

def learn {α : Type} (m : Member) (now : Time) : Except Fault α → Member
  | .ok _ => { m with liveness := .available, lastContact := some now }
  | .error (.remoteStatus ..) => { m with liveness := .available, lastContact := some now }
  | .error (.unreachable ..) => { m with liveness := .unavailable }
  | .error _ => m

/-- How a member is shown to a developer. -/
def debugText (m : Member) (closed : Bool) : String :=
  Text.record "ClusterMember" [("address", Text.quoted m.address), ("status", m.liveness.word),
    ("closed", toString closed)]

end Member

end Conclave.Node

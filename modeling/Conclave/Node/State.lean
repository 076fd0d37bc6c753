import Conclave.Node.Registry
import Conclave.Node.Sightings
import Conclave.Node.Surroundings

/-!
# The state of a node

Everything that a node holds, and the small operations that the others are made of. A member is
closed when it was closed itself or the lifetime of the node is over. A signal that was accepted
waits as a task until its handler has run; a gate keeps a task back until the response that
acknowledges the signal is out.
-/

namespace Conclave

namespace Node

open Wire

/-- What a task waits for before its handler starts. -/
abbrev Gate := Nat

/-- How far a task is. -/
inductive Stage where
  | waiting (gate : Gate)
  | ready
  | stuck
deriving DecidableEq, Repr

/-- An accepted signal whose handler has not finished. -/
structure Task where
  handler : HandlerId
  delivered : Delivered
  stage : Stage
deriving DecidableEq, Repr

/-- What is to be done in a pass of reconciliation: a registered member is removed unless it is
desired, or a desired one is added unless it is registered. -/
inductive Chore where
  | discharge (address : String)
  | enlist (address : String)
deriving DecidableEq, Repr

/-- A pass in the middle: the listeners have yet to hear of the last change, and chores are left. -/
structure Pass where
  desired : List String
  unannounced : MemberEvent
  chores : List Chore
deriving DecidableEq, Repr

/-- The loop that follows the channel of memberships. It carries what it has seen. -/
inductive Follower where
  | idle (subscription : Membership.Subscription)
  | following (subscription : Membership.Subscription)
  | reconciling (subscription : Membership.Subscription) (pass : Pass)
  | ended

end Node

open Node in
/-- A node among surroundings of type `ω`. `members` holds every member ever made, and
`callerGaveUp` tells whether the running call was given up. -/
structure Node (ω : Type) where
  world : ω
  lifetimeOver : Bool
  members : List Member
  registry : Registry
  handlers : Handlers
  sightings : Sightings
  tasks : List Task
  gates : Nat
  channel : Membership.Channel
  follower : Follower
  callerGaveUp : Bool

namespace Node

variable {ω : Type}

def member? (n : Node ω) (id : MemberId) : Option Member := n.members[id]?

def updateMember (n : Node ω) (id : MemberId) (f : Member → Member) : Node ω :=
  { n with members := n.members.modify id f }

def isClosed (n : Node ω) (id : MemberId) : Bool :=
  n.lifetimeOver || (n.member? id).any (·.canceled)

def debugText? (n : Node ω) (id : MemberId) : Option String :=
  (n.member? id).map fun m => m.debugText (n.isClosed id)

/-- Closes the member that is registered under an address. -/
def closeMember (n : Node ω) (address : String) : Node ω :=
  match n.registry.get? address with
  | some id => n.updateMember id Member.close
  | none => n

def obey (n : Node ω) : Control → Node ω
  | .endLifetime => { n with lifetimeOver := true }
  | .giveUp => { n with callerGaveUp := true }
  | .publish desired => { n with channel := (n.channel.publish desired).1 }
  | .closeMember address => n.closeMember address

def after (n : Node ω) (world : ω) (controls : List Control) : Node ω :=
  controls.foldl obey { n with world := world }

/-- By what a call is bounded beside the member's own life: by nothing, by the lifetime of the
node, or by a caller of its own. -/
inductive Bound where
  | unbounded
  | lifetime
  | caller
deriving DecidableEq, Repr

def isGivenUp (n : Node ω) : Bound → Bool
  | .unbounded => false
  | .lifetime => n.lifetimeOver
  | .caller => n.callerGaveUp

/-- A caller starts a call and may have given it up already. -/
def beginCall (n : Node ω) (givenUp : Bool) : Node ω := { n with callerGaveUp := givenUp }

def release (n : Node ω) (gate : Gate) : Node ω :=
  { n with
    tasks := n.tasks.map fun t =>
      if t.stage = .waiting gate then { t with stage := .ready } else t }

section

variable [Surroundings ω]

/-- The node after what happens around it between two of its steps. -/
def elapse (n : Node ω) : Node ω :=
  let (world, controls) := Surroundings.elapse n.world
  n.after world controls

def now (n : Node ω) : Time := Surroundings.now n.world

def touch (n : Node ω) (id : MemberId) : Node ω := n.updateMember id (·.touch n.now)

def leader? (n : Node ω) : Option (String × MemberId) := do
  let address ← Surroundings.leader n.world
  return (address, ← n.registry.get? address)

def isLeader (n : Node ω) : Bool :=
  (Surroundings.leader n.world).any n.registry.isLocal

end

end Node

end Conclave

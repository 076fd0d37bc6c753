import Conclave.Membership
import Conclave.Node.Handlers
import Conclave.Node.Member
import Conclave.Wire.Message

/-!
# What surrounds a node

A node works with a consensus engine, message handlers, the network, a clock and a source of
identities. `Surroundings ω` says what each of them does when it is asked, as a step of a state
in `ω`. What they do may reach back into the node: they may end its lifetime, give up the
running call, publish a membership or close a member. These wishes are returned as `Control`s
and carried out by the node.
-/

namespace Conclave.Node

open Wire

/-- What the surroundings ask of a node while they answer it. -/
inductive Control where
  | endLifetime
  | giveUp
  | publish (desired : Membership)
  | closeMember (address : String)

/-- How something that was started goes on: it comes to an end, or it never does. -/
inductive Ending (α : Type) where
  | returned (value : α)
  | never

/-- A request to the consensus engine. -/
inductive ConsensusCall where
  | vote (request : VoteRequest)
  | entries (request : AppendEntries)
  | snapshot (header : SnapshotHeader) (snapshot : Body)
  | resign
deriving DecidableEq, Repr

/-- A call to another member. -/
inductive Outbound where
  | requestVote (request : VoteRequest)
  | appendEntries (request : AppendEntries)
  | installSnapshot (header : SnapshotHeader) (snapshot : Body)
  | resign
  | metadata
  | message (envelope : Envelope) (respectLeadership : Bool)
  | signal (envelope : Envelope) (delivery : Delivery) (respectLeadership : Bool)
deriving DecidableEq, Repr

def Outbound.Answer : Outbound → Type
  | .metadata => Metadata
  | .message .. => Message
  | .signal .. => Unit
  | _ => RaftResult

/-- A change of the registered members. -/
inductive MemberEvent where
  | added (address : String)
  | removed (address : String)
deriving DecidableEq, Repr

namespace MemberEvent

def label : MemberEvent → String
  | added _ => "MEMBER_ADDED"
  | removed _ => "MEMBER_REMOVED"

def address : MemberEvent → String
  | added a => a
  | removed a => a

end MemberEvent

/-- The surroundings of a node with their state in `ω`. A failure of the engine or of a handler
is a chain of reasons, the outermost first. -/
class Surroundings (ω : Type) where
  /-- What happens around the node between two of its steps. -/
  elapse : ω → ω × List Control
  /-- The time of the clock. -/
  now : ω → Time
  /-- The term of the consensus engine. -/
  term : ω → UInt64
  /-- The address of the leader as far as the engine knows. -/
  leader : ω → Option String
  /-- The engine receives a request of a member. -/
  receive : ω → String → ConsensusCall → ω × List Control × Except (List String) Bool
  /-- Whether a handler supports messages of a name. -/
  supports : ω → HandlerId → String → Bool
  /-- A handler receives a request from a sender and replies. -/
  answer : ω → HandlerId → String → Message →
    ω × List Control × Ending (Except (List String) Message)
  /-- A handler receives a signal from a sender. Whether it succeeds is of no consequence. -/
  take : ω → HandlerId → String → Message → ω × List Control × Ending Unit
  /-- A call is sent to the member at an address. -/
  transmit : ω → String → (call : Outbound) →
    ω × List Control × Ending (Except Fault call.Answer)
  /-- Whether a member can be made for an address. -/
  accept : ω → String → Except Fault Unit
  /-- An identity that was not used before. -/
  freshId : ω → MessageId × ω
  /-- Listeners hear of a change of the members. -/
  hear : ω → MemberEvent → ω

end Conclave.Node

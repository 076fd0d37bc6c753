import Conclave.Node.State

/-!
# Requests of the consensus protocol

Requests of registered members go to the consensus engine, and the answer is paired with the
engine's term after the call. A candidate that is not registered still learns the term; other
requests of strangers are refused. Metadata is told to everybody.
-/

namespace Conclave.Node

open Wire

variable {ω : Type} [Surroundings ω]

/-- The reply to an inbound request. An acknowledgment may carry the gate that opens once the
response is out. -/
inductive Reply where
  | raft (result : RaftResult)
  | metadata (metadata : Metadata)
  | message (message : Message)
  | accepted (release : Option Gate)
  | status (status : Status)
deriving DecidableEq

def Reply.toStatus : Reply → Status
  | raft _ | metadata _ | message _ => .ok
  | accepted _ => .noContent
  | status s => s

/-- Hands a request of a registered member to the engine. -/
def consult (n : Node ω) (id : MemberId) (sender : String) (call : ConsensusCall) :
    Node ω × Except Fault Reply :=
  let n := n.touch id
  match Surroundings.receive n.world sender call with
  | (world, controls, .ok value) =>
    let n := n.after world controls
    (n, .ok (.raft ⟨Surroundings.term n.world, value⟩))
  | (world, controls, .error chain) => (n.after world controls, .error (.consensus chain))

def receiveVote (n : Node ω) (sender : String) (request : VoteRequest) :
    Node ω × Except Fault Reply :=
  match n.registry.get? sender with
  | none => (n, .ok (.raft ⟨Surroundings.term n.world, false⟩))
  | some id => n.consult id sender (.vote request)

/-- A leader sends entries or a snapshot, or a member asks the leader to resign. -/
def receiveOrder (n : Node ω) (sender : String) (call : ConsensusCall) :
    Node ω × Except Fault Reply :=
  match n.registry.get? sender with
  | none => (n, .ok (.status .notFound))
  | some id => n.consult id sender call

def tellMetadata (n : Node ω) (sender : Option String) : Node ω × Reply :=
  let n := match sender.bind n.registry.get? with
    | some id => n.touch id
    | none => n
  (n, .metadata n.registry.metadata)

end Conclave.Node

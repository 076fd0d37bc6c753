import Conclave.Wire.Message

/-!
# Inbound requests

A request is decoded once from its fields and its body. `Request.decode` says which fields each
kind needs and in which order they are looked at; every fault is a malformed request.
-/

namespace Conclave.Wire

/-- A request of another member. -/
inductive Request where
  | requestVote (sender : String) (vote : VoteRequest)
  | appendEntries (sender : String) (entries : AppendEntries)
  | installSnapshot (sender : String) (header : SnapshotHeader) (snapshot : Body)
  | resign (sender : String)
  | metadata (sender : Option String)
  | custom (delivered : Delivered)
deriving DecidableEq, Repr

namespace Request

def kind : Request → Kind
  | requestVote .. => .requestVote
  | appendEntries .. => .appendEntries
  | installSnapshot .. => .installSnapshot
  | resign .. => .resign
  | metadata .. => .metadata
  | custom .. => .custom

/-- The payload that the body of a request has to hold. -/
def payload {α : Type} (ofSource? : Json.Source → Option α) (body : Body) : Except Fault α :=
  match decode? ofSource? body.content with
  | some x => .ok x
  | none => .error (.malformed .badPayload)

/-- The way of delivery that a message asks for; a request that expects a reply unless it says
otherwise. -/
def delivery (f : Fields) : Except Fault Delivery :=
  match f.get? Field.delivery with
  | some _ => f.parse Field.delivery Delivery.read?
  | none => .ok .requestReply

/-- The identity of a message. A one-way message has to have one, because its repeats are told
by it. -/
def identity (f : Fields) (d : Delivery) : Except Fault (Option MessageId) :=
  match f.get? Field.messageId with
  | some _ => (f.parse Field.messageId MessageId.read?).map some
  | none => if d.isOneWay then .error (.malformed (.missingHeader Field.messageId)) else .ok none

/-- Whether a message is meant for the leader only. -/
def respectsLeadership (f : Fields) : Bool :=
  match f.get? Field.respectLeadership with
  | some v => Text.sameLetters (Text.trim v) "true"
  | none => false

def delivered (f : Fields) (body : Body) : Except Fault Delivered := do
  let d ← delivery f
  let id ← identity f d
  let sender ← f.require Field.sender
  let name ← f.require Field.messageName
  return {
    sender := sender
    id := id
    delivery := d
    respectLeadership := respectsLeadership f
    message := ⟨name, (f.get? Field.contentType).getD octetStream, body⟩ }

def decode (f : Fields) (body : Body) : Except Fault Request := do
  let kind ← f.parse Field.kind Kind.read?
  match kind with
  | .requestVote =>
    let sender ← f.require Field.sender
    return .requestVote sender (← payload VoteRequest.ofSource? body)
  | .appendEntries =>
    let sender ← f.require Field.sender
    return .appendEntries sender (← payload AppendEntries.ofSource? body)
  | .installSnapshot =>
    let sender ← f.require Field.sender
    return .installSnapshot sender (← SnapshotHeader.read f) body
  | .resign => return .resign (← f.require Field.sender)
  | .metadata => return .metadata (f.get? Field.sender)
  | .custom => return .custom (← delivered f body)

end Request

end Conclave.Wire

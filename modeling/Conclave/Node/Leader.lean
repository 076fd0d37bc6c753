import Conclave.Node.Bus
import Conclave.Node.Call

/-!
# Messages to the leader

A message for the leader is tried until it is delivered, fails for good or is given up. Every
`round` starts with a look at who the leader is (`heading`), makes one attempt, at this node or
at another one, and judges its result (`classify`). `run` makes another round when the leader was
not reached or answered with the status that asks for it. All attempts carry the same envelope.
-/

namespace Conclave.Node

open Wire

variable {ω : Type} [Surroundings ω]

/-! ## Judging an attempt -/

/-- What the result of an attempt means. -/
inductive Verdict (α : Type) where
  | delivered (value : α)
  | retry (fault : Fault)
  | failed (fault : Fault)
  | canceled
deriving DecidableEq, Repr

/-- The meaning of a result, given the status that asks for another attempt. -/
def classify {α : Type} (retry : Status) : Except Fault α → Verdict α
  | .ok value => .delivered value
  | .error .canceled => .canceled
  | .error (.unreachable address reason) => .retry (.unreachable address reason)
  | .error (.remoteStatus address status) =>
    if status = retry.code then .retry (.remoteStatus address status)
    else .failed (.remoteStatus address status)
  | .error fault => .failed fault

/-! ## What is sent -/

/-- An envelope for the leader: a request, or a signal with its way of delivery. -/
inductive Errand where
  | request (envelope : Envelope)
  | signal (envelope : Envelope) (delivery : Delivery)
deriving DecidableEq, Repr

namespace Errand

def envelope : Errand → Envelope
  | request e => e
  | signal e _ => e

def delivery : Errand → Delivery
  | request _ => .requestReply
  | signal _ d => d

/-- The call that an errand makes at another member. -/
def outbound : Errand → Outbound
  | request e => .message e true
  | signal e d => .signal e d true

abbrev Answer (x : Errand) : Type := x.outbound.Answer

def retryStatus : Errand → Status
  | request _ => .badRequest
  | signal .. => .serviceUnavailable

/-- The message as it arrives when the leader is this node. -/
def delivered (x : Errand) (sender : String) : Delivered :=
  ⟨sender, some x.envelope.id, x.delivery, true, x.envelope.message⟩

end Errand

/-! ## An attempt at this node -/

/-- What a reply means to the sender of an errand when both are this node. -/
def ownResult (address : String) : (x : Errand) → Reply → Except Fault x.Answer
  | .request _, .message m => .ok m
  | .signal .., .accepted _ => .ok ()
  | _, reply => .error (.remoteStatus address reply.toStatus.code)

def Reply.gate? : Reply → Option Gate
  | .accepted gate => gate
  | _ => none

/-- Hands an errand to this node. There is no response to wait for, so a signal's handler may
start at once. -/
def dispatchHere (n : Node ω) (x : Errand) : Node ω × Ending (Except Fault x.Answer) :=
  match n.receiveMessage (x.delivered n.registry.localAddress) with
  | (n, .returned (.ok reply)) =>
    let n := match reply.gate? with
      | some gate => n.release gate
      | none => n
    (n, .returned (ownResult n.registry.localAddress x reply))
  | (n, .returned (.error fault)) => (n, .returned (.error fault))
  | (n, .never) => (n, .never)

/-- An attempt at this node, bounded by the caller and the lifetime. Both are looked at before it
starts, and again when a handler that received the message does not come to an end. -/
def attemptHere (n : Node ω) (bound : Bound) (x : Errand) :
    Node ω × Ending (Except Fault x.Answer) :=
  if n.isGivenUp bound || n.lifetimeOver then (n, .returned (.error .canceled))
  else
    match n.dispatchHere x with
    | (n, .returned result) => (n, .returned result)
    | (n, .never) =>
      let n := n.pause
      if n.isGivenUp bound || n.lifetimeOver then (n, .returned (.error .canceled))
      else (n, .never)

/-! ## The loop -/

/-- Where the next attempt goes, if there is one. -/
inductive Heading where
  | canceled
  | leaderless
  | here
  | there (id : MemberId)
deriving DecidableEq, Repr

/-- A look at the caller, the lifetime and the leader. -/
def heading (n : Node ω) (bound : Bound) : Heading :=
  if n.isGivenUp bound || n.lifetimeOver then .canceled
  else
    match n.leader? with
    | none => .leaderless
    | some (address, id) => if n.registry.isLocal address then .here else .there id

def attempt (n : Node ω) (bound : Bound) (x : Errand) :
    Heading → Node ω × Ending (Except Fault x.Answer)
  | .canceled => (n, .returned (.error .canceled))
  | .leaderless => (n, .returned (.error .leaderUnavailable))
  | .here => n.attemptHere bound x
  | .there id => n.call bound id x.outbound

/-- One round: a look, an attempt and its meaning. Things may happen around the node between the
look and the attempt. -/
def round (n : Node ω) (bound : Bound) (x : Errand) : Node ω × Ending (Verdict x.Answer) :=
  match n.elapse.attempt bound x (n.heading bound) with
  | (n, .returned result) => (n, .returned (classify x.retryStatus result))
  | (n, .never) => (n, .never)

/-- Runs an errand for at most `rounds` rounds and gives way between two of them; it never ends when
they are used up. -/
def run (bound : Bound) (x : Errand) :
    (rounds : Nat) → Node ω → Node ω × Ending (Except Fault x.Answer)
  | 0, n => (n, .never)
  | rounds + 1, n =>
    match n.round bound x with
    | (n, .never) => (n, .never)
    | (n, .returned (.delivered value)) => (n, .returned (.ok value))
    | (n, .returned (.failed fault)) => (n, .returned (.error fault))
    | (n, .returned .canceled) => (n, .returned (.error .canceled))
    | (n, .returned (.retry _)) => run bound x rounds n.giveWay

/-- The message with an identity that no other one has. -/
def envelop (n : Node ω) (m : Message) : Envelope × Node ω :=
  let (id, world) := Surroundings.freshId n.world
  (⟨id, m⟩, { n with world := world })

/-- Sends a request to the leader and gives its reply. -/
def sendRequest (rounds : Nat) (n : Node ω) (bound : Bound) (m : Message) :
    Node ω × Ending (Except Fault Message) :=
  match m.check with
  | .error fault => (n, .returned (.error fault))
  | .ok () =>
    let (e, n) := n.envelop m
    run bound (.request e) rounds n

def sendSignal (rounds : Nat) (n : Node ω) (bound : Bound) (m : Message) (d : Delivery) :
    Node ω × Ending (Except Fault Unit) :=
  if !d.isOneWay then (n, .returned (.error (.malformed (.notASignal d.tag))))
  else
    match m.check with
    | .error fault => (n, .returned (.error fault))
    | .ok () =>
      let (e, n) := n.envelop m
      run bound (.signal e d) rounds n

end Conclave.Node

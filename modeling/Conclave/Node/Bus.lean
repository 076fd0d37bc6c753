import Conclave.Node.Consensus

/-!
# Application messages

An inbound message has to come from a registered member, reach the leader if it is meant for it,
and find a handler that supports its name. Then a request is answered by its handler, and a
signal is accepted: it becomes a task unless its identity was seen before.
-/

namespace Conclave.Node

open Wire

variable {ω : Type} [Surroundings ω]

/-- A signal becomes a task; behind a gate if it is to be acknowledged first. -/
def spawn (n : Node ω) (handler : HandlerId) (d : Delivered) : Node ω × Option Gate :=
  if d.delivery = .oneWayNoAck then
    ({ n with
        tasks := n.tasks ++ [⟨handler, d, .waiting n.gates⟩]
        gates := n.gates + 1 }, some n.gates)
  else ({ n with tasks := n.tasks ++ [⟨handler, d, .ready⟩] }, none)

/-- Accepts a signal for a handler. A signal without an identity cannot be told from another
one and is taken as new. -/
def acceptSignal (n : Node ω) (handler : HandlerId) (d : Delivered) : Node ω × Reply :=
  match d.id with
  | none =>
    let (n, gate) := n.spawn handler d
    (n, .accepted gate)
  | some id =>
    match n.sightings.see n.now id with
    | (sightings, true) => ({ n with sightings := sightings }, .accepted none)
    | (sightings, false) =>
      let (n, gate) := { n with sightings := sightings }.spawn handler d
      (n, .accepted gate)

def answer (n : Node ω) (handler : HandlerId) (d : Delivered) :
    Node ω × Ending (Except Fault Reply) :=
  match Surroundings.answer n.world handler d.sender d.message with
  | (world, controls, .returned (.ok reply)) =>
    (n.after world controls, .returned (.ok (.message reply)))
  | (world, controls, .returned (.error chain)) =>
    (n.after world controls, .returned (.error (.handler chain)))
  | (world, controls, .never) => (n.after world controls, .never)

def receiveMessage (n : Node ω) (d : Delivered) : Node ω × Ending (Except Fault Reply) :=
  match n.registry.get? d.sender with
  | none => (n, .returned (.ok (.status .notFound)))
  | some id =>
    let n := n.touch id
    if d.respectLeadership && !n.isLeader then (n, .returned (.ok (.status .serviceUnavailable)))
    else
      match n.handlers.find? (Surroundings.supports n.world) d.message.name with
      | none => (n, .returned (.ok (.status .notImplemented)))
      | some handler =>
        if d.delivery = .requestReply then n.answer handler d
        else
          let (n, reply) := n.acceptSignal handler d
          (n, .returned (.ok reply))

end Conclave.Node

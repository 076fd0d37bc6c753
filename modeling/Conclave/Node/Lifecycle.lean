import Conclave.Node.Background
import Conclave.Node.LocalMember

/-!
# The life of a node

A node is built from the current membership of a channel: the local member is found, made and
registered alone. Starting reconciles with the current membership and begins to follow the
channel. Shutting down ends the lifetime, closes the registered members, waits for the tasks and
forgets every sighting.
-/

namespace Conclave.Node

variable {ω : Type} [Surroundings ω]

/-- Why a node is not built. `crashed` is the end of the process when identities were to be
remembered for longer than is possible. -/
inductive BuildFailure where
  | refused (fault : Fault)
  | crashed
deriving DecidableEq, Repr

/-- How long and how many identities of messages are remembered. -/
structure Memory where
  retention : Time
  capacity : Nat
deriving DecidableEq, Repr

/-- A node with the local member alone, which follows a channel once it is started. -/
def alone (world : ω) (address : String) (sightings : Sightings) (channel : Membership.Channel) :
    Node ω :=
  { world := world
    lifetimeOver := false
    members := [Member.new address]
    registry := Registry.new address 0 channel.current.metadata channel.current.networks
    handlers := .empty
    sightings := sightings
    tasks := []
    gates := 0
    channel := channel
    follower := .idle channel.subscribe
    callerGaveUp := false }

/-- A node that follows a channel from its current value on. `prepare` makes the surroundings for
the local address that was found. -/
def build (host : Host) (memory : Memory) (channel : Membership.Channel)
    (prepare : String → ω) : Except BuildFailure (Node ω) := do
  let address ← (host.resolve channel.current.members).mapError .refused
  let world := prepare address
  let _ ← (Surroundings.accept world address).mapError .refused
  match Sightings.new? memory.retention memory.capacity with
  | none => .error .crashed
  | some sightings => return alone world address sightings channel

/-- Starts a node: a first pass with the current membership, then the channel is followed. Only
the first start does anything. -/
def start (n : Node ω) : Node ω × Report :=
  match n.follower with
  | .idle s =>
    let (n, report) := n.reconcile n.channel.current
    ({ n with follower := .following s }, report)
  | _ => (n, Report.empty)

def isStarted (n : Node ω) : Bool :=
  match n.follower with
  | .idle _ => false
  | _ => true

def closeAll (n : Node ω) : Node ω :=
  n.registry.handles.entries.foldl (fun n e => n.updateMember e.2 Member.close) n

/-- Whether everything that a shutdown waits for has come to its end. -/
def isQuiet (n : Node ω) : Bool :=
  n.tasks.isEmpty &&
    match n.follower with
    | .following _ => false
    | _ => true

/-- Shuts a node down; true when the shutdown comes to its end, and not while a task keeps it
waiting. A node whose lifetime is over already is left as it is. -/
def shutdown (n : Node ω) : Node ω × Bool :=
  if n.lifetimeOver then (n, true)
  else
    let n := ({ n with lifetimeOver := true }.closeAll).settle
    if n.isQuiet then ({ n with sightings := n.sightings.trim n.now 0 }, true) else (n, false)

end Conclave.Node

import Conclave.Http.Transport
import Conclave.Node.Listener

/-!
# Scripted surroundings

A world in which everything around a node follows a script: what the consensus engine says, what
handlers do, and how calls to other members end. It keeps a log of all that the node asked of it,
in order, so that a run can be compared with another one.
-/

namespace Conclave.Rehearsal

open Wire Node

/-! ## Scripts -/

/-- The consensus engine of a script. Every request adds `bump` to the term, and fails when
`failure` is a chain of reasons. -/
structure Engine where
  term : UInt64
  leader : Option String
  failure : Option (List String)
  bump : UInt64
  value : Bool
deriving DecidableEq, Repr

def Engine.quiet : Engine := ⟨0, none, none, 0, true⟩

/-- Something that happens in the middle of a call. -/
inductive Act where
  | engine (change : Engine → Engine)
  | control (wish : Control)

/-- How a call to a member ends. What is not given is made up from the call. -/
structure Outcome where
  acts : List Act
  hangs : Bool
  fault : Option Fault
  raft : Option RaftResult
  metadata : Option Metadata
  message : Option Message

def Outcome.plain : Outcome := ⟨[], false, none, none, none, none⟩

/-- What a handler supports and does. It echoes requests unless it has a reply. -/
structure HandlerScript where
  label : String
  names : List String
  acts : List Act
  stalls : Bool
  failure : Option (List String)
  reply : Option Message

/-- How calls travel: as scripted, or over HTTP to peers that never respond. -/
inductive Network where
  | scripted
  | http (sender path : String) (spillThreshold : Nat)
deriving DecidableEq, Repr

/-! ## The log -/

/-- What a node asked of its surroundings. -/
inductive Entry where
  | consulted (sender : String) (call : ConsensusCall) (failed : Bool)
  | sent (address : String) (call : Outbound)
  | handled (label : String) (signal : Bool) (sender : String) (message : Message)
  | heard (event : MemberEvent)
deriving DecidableEq, Repr

/-! ## The world -/

/-- The state of a script. `drawn` counts the identities that were drawn. -/
structure World where
  clock : Time
  engine : Engine
  handlers : List HandlerScript
  queues : StringMap (List Outcome)
  network : Network
  failing : List String
  drawn : Nat
  listener : Listener
  log : List Entry

namespace World

def start (engine : Engine) (network : Network) (failing : List String) : World :=
  ⟨0, engine, [], StringMap.empty, network, failing, 0, Listener.new 256, []⟩

/-- The world with an entry at the end of its log. -/
def note (w : World) (e : Entry) : World := { w with log := w.log ++ [e] }

def clearLog (w : World) : World := { w with log := [] }

/-- Carries out what happens in the middle of a call; what concerns the node is left to it. -/
def perform (w : World) (acts : List Act) : World × List Control :=
  acts.foldl (fun (w, controls) act =>
    match act with
    | .engine change => ({ w with engine := change w.engine }, controls)
    | .control wish => (w, controls ++ [wish])) (w, [])

def expect (w : World) (address : String) (outcomes : List Outcome) : World :=
  { w with queues := w.queues.insert address ((w.queues.get? address).getD [] ++ outcomes) }

def nextOutcome (w : World) (address : String) : Outcome × World :=
  match w.queues.get? address with
  | some (o :: r) => (o, { w with queues := w.queues.insert address r })
  | _ => (.plain, w)

def outcomesLeft (w : World) : Nat :=
  w.queues.entries.foldl (fun n e => n + e.2.length) 0

def drawnId (n : Nat) : MessageId := ⟨BitVec.ofNat 128 (0xffffffffffff4fffbfff000000000000 + n)⟩

def handler? (w : World) (id : HandlerId) : Option HandlerScript := w.handlers[id]?

def receive (w : World) (sender : String) (call : ConsensusCall) :
    World × List Control × Except (List String) Bool :=
  let engine := { w.engine with term := w.engine.term + w.engine.bump }
  let w := { w with engine := engine }.note (.consulted sender call engine.failure.isSome)
  match engine.failure with
  | some chain => (w, [], .error chain)
  | none => (w, [], .ok engine.value)

def answer (w : World) (id : HandlerId) (sender : String) (m : Message) :
    World × List Control × Ending (Except (List String) Message) :=
  match w.handler? id with
  | none => (w, [], .returned (.ok m))
  | some h =>
    let (w, controls) := (w.note (.handled h.label false sender m)).perform h.acts
    (w, controls,
      if h.stalls then .never
      else
        match h.failure with
        | some chain => .returned (.error chain)
        | none => .returned (.ok (h.reply.getD m)))

def take (w : World) (id : HandlerId) (sender : String) (m : Message) :
    World × List Control × Ending Unit :=
  match w.handler? id with
  | none => (w, [], .returned ())
  | some h =>
    let (w, controls) := (w.note (.handled h.label true sender m)).perform h.acts
    (w, controls, if h.stalls then .never else .returned ())

/-- What an outcome answers to a call that it lets succeed. -/
def Outcome.answer (o : Outcome) : (call : Outbound) → call.Answer
  | .requestVote r => o.raft.getD ⟨r.term, true⟩
  | .appendEntries r => o.raft.getD ⟨r.term, true⟩
  | .installSnapshot h _ => o.raft.getD ⟨h.term, true⟩
  | .resign => o.raft.getD ⟨1, true⟩
  | .metadata => o.metadata.getD StringMap.empty
  | .message e _ => o.message.getD e.message
  | .signal .. => ()

def play (w : World) (address : String) (call : Outbound) :
    World × List Control × Ending (Except Fault call.Answer) :=
  let (o, w) := (w.note (.sent address call)).nextOutcome address
  let (w, controls) := w.perform o.acts
  (w, controls,
    if o.hangs then .never
    else
      match o.fault with
      | some fault => .returned (.error fault)
      | none => .returned (.ok (Outcome.answer o call)))

def transmit (w : World) (address : String) (call : Outbound) :
    World × List Control × Ending (Except Fault call.Answer) :=
  match w.network with
  | .scripted => w.play address call
  | .http sender path spillThreshold =>
    let peer : Http.Peer := ⟨address, path, sender, spillThreshold⟩
    (w, [], .returned (peer.call call fun _ => .silent))

def accept (w : World) (address : String) : Except Fault Unit :=
  match w.network with
  | .scripted => if w.failing.contains address then .error (.invalidAddress address) else .ok ()
  | .http .. => Http.accept address

instance : Surroundings World where
  elapse w := (w, [])
  now w := w.clock
  term w := w.engine.term
  leader w := w.engine.leader
  receive := receive
  supports w id name := (w.handler? id).any (·.names.contains name)
  answer := answer
  take := take
  transmit := transmit
  accept := accept
  freshId w := (drawnId w.drawn, { w with drawn := w.drawn + 1 })
  hear w e := { w.note (.heard e) with listener := w.listener.hear e }

end World

end Conclave.Rehearsal

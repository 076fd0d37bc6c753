import Conclave.Http.Url
import Conclave.Node.Surroundings
import Conclave.Endpoint
import Conclave.Wire.Buffer

/-!
# Calls over HTTP

Every call to a member is one POST request to its protocol path. `encode` writes the request of
a call, `interpret` says what the client's report of it means to the caller. What could not be
written is malformed; what broke down before there was a response did not reach the member; a
response with a status outside 200 to 299 is passed on as that status.

The client that carries the requests is not part of this library. Where a response sends it
elsewhere it goes there of its own accord, and it reports what comes of that: the response that a
caller sees is the last one of the way, and those before it are not seen (`Behaviour`).
-/

namespace Conclave.Http

open Wire Node

/-- A member as it is called over HTTP, and the address of the caller. -/
structure Peer where
  address : String
  path : String
  sender : String
  spillThreshold : Nat
deriving DecidableEq, Repr

/-- A request on its way. -/
structure Outgoing where
  url : String
  headers : List (String × String)
  body : Bytes
deriving DecidableEq, Repr

/-- What the client reports of a request in the end, after all redirections that it followed. -/
inductive Behaviour where
  /-- A redirection led to a place for which no request can be built. -/
  | unbuildable
  | silent
  | responds (status : Nat) (headers : List (String × Bytes)) (body : Bytes) (complete : Bool)
deriving DecidableEq, Repr

namespace Peer

def url (p : Peer) : String := "http://" ++ p.address ++ p.path

def kindOf : Outbound → Kind
  | .requestVote _ => .requestVote
  | .appendEntries _ => .appendEntries
  | .installSnapshot .. => .installSnapshot
  | .resign => .resign
  | .metadata => .metadata
  | .message .. | .signal .. => .custom

def envelopeHeaders (e : Envelope) (d : Delivery) (respectLeadership : Bool) :
    List (String × String) :=
  [(Field.delivery, d.tag),
    (Field.respectLeadership, if respectLeadership then "true" else "false"),
    (Field.messageId, e.id.text), (Field.messageName, e.message.name),
    (Field.contentType, e.message.contentType)]

/-- The fields that belong to the content of a call. -/
def contentHeaders : Outbound → List (String × String)
  | .requestVote _ | .appendEntries _ => [(Field.contentType, jsonContent)]
  | .installSnapshot h _ =>
    (Field.contentType, octetStream) :: (h.write Fields.empty).toList
  | .resign | .metadata => []
  | .message e respect => envelopeHeaders e .requestReply respect
  | .signal e d respect => envelopeHeaders e d respect

def content : Outbound → Bytes
  | .requestVote r => Wire.encode r.toJson
  | .appendEntries r => Wire.encode r.toJson
  | .installSnapshot _ b => b.content
  | .resign | .metadata => []
  | .message e _ | .signal e _ _ => e.message.body.content

/-- The request of a call, written without a check. -/
def outgoing (p : Peer) (o : Outbound) : Outgoing :=
  { url := p.url
    headers := (Field.kind, (kindOf o).tag) :: (Field.sender, p.sender) :: contentHeaders o
    body := content o }

/-- Whether a call can be written: its address is one, and its fields can be sent. -/
def isWritable (p : Peer) (o : Outbound) : Bool :=
  isLocator (p.address ++ p.path) && (p.outgoing o).headers.all fun h => isFieldValue h.2

def encode (p : Peer) (o : Outbound) : Except Fault Outgoing :=
  if p.isWritable o then .ok (p.outgoing o) else .error (.malformed .unbuildable)

/-- The first value under a name, if it is a text. -/
def header? (headers : List (String × Bytes)) (name : String) : Option String :=
  (headers.find? (Text.sameLetters ·.1 name)).bind fun h => Bytes.text? h.2

/-- The document in a response. A body that breaks off holds none. -/
def document {α : Type} (ofSource? : Json.Source → Option α) (body : Bytes) (complete : Bool) :
    Except Fault α :=
  match if complete then decode? ofSource? body else none with
  | some x => .ok x
  | none => .error (.undecodable "the response is not the JSON document that was expected")

def reply (p : Peer) (headers : List (String × Bytes)) (body : Bytes) (complete : Bool) :
    Except Fault Message :=
  if complete then
    .ok ⟨(header? headers Field.messageName).getD "",
      (header? headers Field.contentType).getD octetStream,
      ((Buffer.new p.spillThreshold).push body).finish⟩
  else .error (.unreachable p.address .noConnection)

def answer (p : Peer) (headers : List (String × Bytes)) (body : Bytes) (complete : Bool) :
    (o : Outbound) → Except Fault o.Answer
  | .requestVote _ => document RaftResult.ofSource? body complete
  | .appendEntries _ => document RaftResult.ofSource? body complete
  | .installSnapshot .. => document RaftResult.ofSource? body complete
  | .resign => document RaftResult.ofSource? body complete
  | .metadata => document Metadata.ofSource? body complete
  | .message .. => p.reply headers body complete
  | .signal .. => .ok ()

/-- What the client's report means to the caller. -/
def interpret (p : Peer) (o : Outbound) : Behaviour → Except Fault o.Answer
  | .unbuildable => .error (.malformed .unbuildable)
  | .silent => .error (.unreachable p.address .noConnection)
  | .responds status headers body complete =>
    if 200 ≤ status ∧ status < 300 then p.answer headers body complete o
    else .error (.remoteStatus p.address status)

/-- A whole call, given what the client reports of a request. -/
def call (p : Peer) (o : Outbound) (peer : Outgoing → Behaviour) : Except Fault o.Answer := do
  let request ← p.encode o
  p.interpret o (peer request)

end Peer

/-- Refuses an address that names no host and port. -/
def accept (address : String) : Except Fault Unit :=
  match Endpoint.read? address with
  | some _ => .ok ()
  | none => .error (.invalidAddress address)

end Conclave.Http

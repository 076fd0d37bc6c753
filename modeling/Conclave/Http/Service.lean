import Conclave.Http.Route
import Conclave.Node.Dispatch
import Conclave.Wire.Buffer

/-!
# The consensus endpoint

A request passes the filter of the admitted networks, has to be a POST to the protocol path, and
is then decoded and dispatched; the reply is written as a response. The kind is looked at before
the body is read. The response to a signal that is to be acknowledged first carries a gate, which
opens when the response has been read or dropped.
-/

namespace Conclave.Http

open Wire Node

/-- A request that arrives. A field name may come several times, and a body may break off. -/
structure Incoming where
  method : String
  path : String
  peer : Option Ip.Address
  headers : List (String × Bytes)
  body : List Buffer.Chunk

/-- A response. -/
structure Response where
  status : Nat
  headers : List (String × String)
  body : Bytes
  release : Option Gate
deriving DecidableEq, Repr

/-- How requests are served. -/
structure Service where
  path : String
  route : Route
  spillThreshold : Nat

namespace Response

def text (status : Nat) (s : String) : Response := ⟨status, [], Bytes.ofText s, none⟩

def bare (status : Nat) : Response := ⟨status, [], [], none⟩

/-- The status for a fault: a bad request is the sender's fault, all else is not. -/
def statusOf : Fault → Status
  | .malformed _ | .undecodable _ => .badRequest
  | _ => .internalError

def ofFault (f : Fault) : Response := text (statusOf f).code f.message

def document (x : Json) : Response := ⟨200, [(Field.contentType, jsonContent)], encode x, none⟩

/-- A reply as a response. A reply whose name or content type cannot be sent fails. -/
def ofReply : Reply → Response
  | .raft r => document r.toJson
  | .metadata m => document (Metadata.toJson m)
  | .message m =>
    if isFieldValue m.name && isFieldValue m.contentType then
      ⟨200, [(Field.contentType, m.contentType), (Field.messageName, m.name)], m.body.content,
        none⟩
    else
      ⟨500, [(Field.contentType, "text/plain; charset=utf-8")],
        Bytes.ofText "failed to parse header value", none⟩
  | .accepted gate => ⟨204, [], [], gate⟩
  | .status s => bare s.code

end Response

/-- The node once a response has been read or dropped. -/
def Response.close {ω : Type} (r : Response) (n : Node ω) : Node ω :=
  match r.release with
  | some gate => n.release gate
  | none => n

/-- The response to a request from outside the admitted networks. -/
def denied : Response := .text Status.forbidden.code "access denied"

/-- Whether a list admits a peer. A peer that is not known is admitted only by the list that
admits everyone. -/
def admitsPeer (l : Ip.AccessList) (peer : Option Ip.Address) : Bool :=
  l.networks.isEmpty || peer.any l.admits

namespace Incoming

/-- The fields of a request. Values that are no texts are left out, and the last of several under
one name counts. -/
def fields (r : Incoming) : Fields :=
  Fields.ofList (r.headers.filterMap fun h => (Bytes.text? h.2).map fun v => (h.1, v))

/-- The path of a request without its query and fragment, as it is matched: percent escapes stand
for their bytes, but for those of a slash, a plus and a percent sign. A target that does not begin
with a slash has no path. -/
def route (r : Incoming) : String :=
  let target := r.path.toList
  if target.head? = some '/' then
    Bytes.repaired (decode (target.takeWhile fun c => c ≠ '?' && c ≠ '#'))
  else ""
where
  decode : List Char → Bytes
    | '%' :: a :: b :: r =>
      match Text.hexValue? a, Text.hexValue? b with
      | some x, some y =>
        let byte := UInt8.ofNat (16 * x + y)
        if (Bytes.ofText "/+%").contains byte then Bytes.ofText "%" ++ decode (a :: b :: r)
        else byte :: decode r
      | _, _ => Bytes.ofText "%" ++ decode (a :: b :: r)
    | c :: r => Bytes.ofText c.toString ++ decode r
    | [] => []
  termination_by cs => cs.length

end Incoming

namespace Service

variable {ω : Type} [Surroundings ω]

/-- Serving under a path, which is given a slash in front. There is no serving under a path that is
no pattern. -/
def new? (path : String) (spillThreshold : Nat) : Option Service :=
  let rooted := if path = "" ∨ path.toList.head? = some '/' then path else "/" ++ path
  (Route.read? rooted).map fun route => ⟨path, route, spillThreshold⟩

def body (s : Service) (r : Incoming) : Except Fault Body := do
  let _ ← r.fields.parse Field.kind Kind.read?
  ((Buffer.new s.spillThreshold).readStream r.body).mapError fun reason =>
    .malformed (.stated reason)

def consensus (s : Service) (n : Node ω) (r : Incoming) : Node ω × Ending Response :=
  match s.body r with
  | .error fault => (n, .returned (.ofFault fault))
  | .ok body =>
    match n.dispatch r.fields body with
    | (n, .returned (.ok reply)) => (n, .returned (.ofReply reply))
    | (n, .returned (.error fault)) => (n, .returned (.ofFault fault))
    | (n, .never) => (n, .never)

/-- What lies behind the filter: the endpoint at its path, and nothing elsewhere. -/
def resource (s : Service) (n : Node ω) (r : Incoming) : Node ω × Ending Response :=
  if !s.route.admits r.route then (n, .returned (.bare 404))
  else if r.method ≠ "POST" then (n, .returned ⟨405, [("allow", "POST")], [], none⟩)
  else s.consensus n r

def respond (s : Service) (n : Node ω) (r : Incoming) : Node ω × Ending Response :=
  if admitsPeer n.registry.networks r.peer then s.resource n r else (n, .returned denied)

end Service

end Conclave.Http

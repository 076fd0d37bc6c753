import Conclave.Proofs.Http.Carriage
import Conclave.Proofs.Node.Calling
import Conclave.Proofs.Node.Places
import Conclave.Proofs.Node.Routing
import Conclave.Rehearsal.World

/-!
# What a call makes of an exchange

An exchange with a peer can break down before there is a response, or while its body comes in
(`Exchange`). A response may also send the client elsewhere; then it is what the client reports from
there that counts (`Client`). Every call says in the same way how far it came (`Mapped`): what cannot
be written is malformed, what breaks down before there is a response did not reach the member, and a
response is judged by its status before anything else of it is looked at. Calls differ in how much of
a response they read (`Reading`) only. What a node knows of the member's liveness follows (`Shows`).

They do not say alike that a body broke off. A message did not reach the member then; but a document
is taken for one that cannot be read (`Mapped.torn`), which shows nothing of the member, also when the
member fell silent in the middle of it. Nor is it true of every response without success that the
caller gets its status: a redirection is followed, and what it leads to may be a success
(`torn_document_undecodable`).
-/

namespace Conclave.Http

open Wire Node

/-! ## Exchanges -/

/-- How an exchange with a peer goes, as far as its caller sees it. -/
inductive Exchange where
  /-- There is no connection. -/
  | unconnected
  /-- The time for an answer is over. -/
  | timedOut
  /-- The connection ends before the head of a response is complete. -/
  | cut
  /-- A response, whose body may break off. -/
  | answered (status : Nat) (headers : List (String × Bytes)) (stream : List Buffer.Chunk)

/-- What comes of a stream before it breaks off. -/
def arrived : List Buffer.Chunk → Bytes
  | .ok chunk :: r => chunk ++ arrived r
  | _ => []

def isWhole : List Buffer.Chunk → Bool
  | [] => true
  | .ok _ :: r => isWhole r
  | .error _ :: _ => false

def IsSuccess (status : Nat) : Prop := 200 ≤ status ∧ status < 300

/-- Whether a response with this status and these fields may send a client elsewhere. -/
def IsRedirection (status : Nat) (headers : List (String × Bytes)) : Prop :=
  status ∈ [301, 302, 303, 307, 308] ∧ headers.any (Text.sameLetters ·.1 "location") = true

instance (status : Nat) (headers : List (String × Bytes)) :
    Decidable (IsRedirection status headers) :=
  inferInstanceAs (Decidable (_ ∧ _))

/-- The client that carries requests. It goes elsewhere of its own accord when a response sends it
there. -/
structure Client where
  /-- What it reports in the end of a response that sends it elsewhere, by its status and fields. -/
  elsewhere : Nat → List (String × Bytes) → Option Behaviour
  isRedirection : ∀ status headers, (elsewhere status headers).isSome = true →
    IsRedirection status headers

namespace Client

/-- What the client reports of an exchange with the peer that was called. -/
def reports (c : Client) : Exchange → Behaviour
  | .answered status headers stream => (c.elsewhere status headers).getD
      (.responds status headers (arrived stream) (isWhole stream))
  | _ => .silent

variable (c : Client) {status : Nat} {headers : List (String × Bytes)} {stream : List Buffer.Chunk}

theorem reports_of_taken (h : c.elsewhere status headers = none) :
    c.reports (.answered status headers stream)
      = .responds status headers (arrived stream) (isWhole stream) := by
  rw [reports, h]
  rfl

theorem reports_of_followed {b : Behaviour} (h : c.elsewhere status headers = some b) :
    c.reports (.answered status headers stream) = b := by
  rw [reports, h]
  rfl

/-- A client is sent elsewhere by redirections only. -/
theorem elsewhere_eq_none (h : ¬ IsRedirection status headers) :
    c.elsewhere status headers = none := by
  cases he : c.elsewhere status headers with
  | none => rfl
  | some b => exact absurd (c.isRedirection status headers (by rw [he]; rfl)) h

theorem elsewhere_of_isSuccess (h : IsSuccess status) : c.elsewhere status headers = none := by
  refine c.elsewhere_eq_none fun hredirection => ?_
  have hstatus := hredirection.1
  simp only [List.mem_cons, List.not_mem_nil, or_false] at hstatus
  have hlt := h.2
  omega

end Client

/-- How much a call reads of a response with a status of success. -/
inductive Reading where
  | head
  | document
  | message
deriving DecidableEq, Repr

def reading : Outbound → Reading
  | .signal .. => .head
  | .message .. => .message
  | _ => .document

/-- The document that a call looks for in a body. -/
def document? : (o : Outbound) → Bytes → Option o.Answer
  | .requestVote _ => decode? RaftResult.ofSource?
  | .appendEntries _ => decode? RaftResult.ofSource?
  | .installSnapshot .. => decode? RaftResult.ofSource?
  | .resign => decode? RaftResult.ofSource?
  | .metadata => decode? Metadata.ofSource?
  | .message .. | .signal .. => fun _ => none

/-- There was no response, or its body broke off and a call needs all of it as it is. -/
inductive BreaksDown (o : Outbound) : Exchange → Prop where
  | unconnected : BreaksDown o .unconnected
  | timedOut : BreaksDown o .timedOut
  | cut : BreaksDown o .cut
  | brokenOff {status : Nat} {headers : List (String × Bytes)} {stream : List Buffer.Chunk} :
      IsSuccess status → isWhole stream = false → reading o = .message →
      BreaksDown o (.answered status headers stream)

/-- The reply in a response, given the fields and the body of the response. -/
def reply? (headers : List (String × Bytes)) (body : Body) : (o : Outbound) → Option o.Answer
  | .message .. => some ⟨(Peer.header? headers Field.messageName).getD "",
      (Peer.header? headers Field.contentType).getD octetStream, body⟩
  | _ => none

/-- A whole call, given how the exchange of a request goes. -/
def Peer.called (p : Peer) (c : Client) (o : Outbound) (peer : Outgoing → Exchange) :
    Except Fault o.Answer :=
  p.call o fun request => c.reports (peer request)

/-! ## Results -/

/-- The result of a call says how far the exchange came. -/
structure Mapped (c : Client) (p : Peer) (o : Outbound) (e : Exchange)
    (result : Except Fault o.Answer) : Prop where
  unwritten : p.isWritable o = false → result = .error (.malformed .unbuildable)
  unreached : p.isWritable o = true → BreaksDown o e →
    result = .error (.unreachable p.address .noConnection)
  refused : ∀ status headers stream, p.isWritable o = true → e = .answered status headers stream →
    ¬ IsSuccess status → c.elsewhere status headers = none →
    result = .error (.remoteStatus p.address status)
  /-- A response that sends the client elsewhere counts for nothing. -/
  followed : ∀ status headers stream b, p.isWritable o = true →
    e = .answered status headers stream → c.elsewhere status headers = some b →
    result = p.interpret o b
  undecodable : ∀ status headers stream, p.isWritable o = true →
    e = .answered status headers stream → IsSuccess status → isWhole stream = true →
    ((∃ reason, result = .error (.undecodable reason))
      ↔ reading o = .document ∧ document? o (arrived stream) = none)
  read : ∀ status headers stream, p.isWritable o = true →
    e = .answered status headers stream → IsSuccess status → isWhole stream = true →
    (∀ a, document? o (arrived stream) = some a → result = .ok a)
    ∧ (reading o ≠ .document → ∃ a, result = .ok a)
  /-- The body of a reply is what its stream brings, kept as any body is. -/
  replied : ∀ status headers stream body a, p.isWritable o = true →
    e = .answered status headers stream → IsSuccess status →
    (Buffer.new p.spillThreshold).readStream stream = .ok body →
    reply? headers body o = some a → result = .ok a
  /-- A document that breaks off is taken for one that cannot be read. -/
  torn : ∀ status headers stream, p.isWritable o = true → e = .answered status headers stream →
    IsSuccess status → isWhole stream = false → reading o = .document →
    ∃ reason, result = .error (.undecodable reason)
  acknowledged : ∀ status headers stream, p.isWritable o = true →
    e = .answered status headers stream → IsSuccess status → reading o = .head →
    ∃ a, result = .ok a

/-- What a call makes of the document that it looks for, whether it is there or not. -/
def ofDocument {α : Type} : Option α → Except Fault α
  | some x => .ok x
  | none => .error (.undecodable "the response is not the JSON document that was expected")

theorem ofDocument_undecodable_iff {α : Type} {x : Option α} :
    (∃ reason, ofDocument x = .error (.undecodable reason)) ↔ x = none := by
  cases x with
  | none => exact ⟨fun _ => rfl, fun _ => ⟨_, rfl⟩⟩
  | some a =>
      constructor
      · rintro ⟨reason, h⟩
        cases h
      · intro h
        cases h

theorem document_true {α : Type} (ofSource? : Json.Source → Option α) (body : Bytes) :
    Peer.document ofSource? body true = ofDocument (decode? ofSource? body) := by
  rw [Peer.document, if_pos rfl]
  cases decode? ofSource? body <;> rfl

theorem called_of_not_isWritable {p : Peer} {o : Outbound} (h : p.isWritable o = false)
    (c : Client) (peer : Outgoing → Exchange) :
    p.called c o peer = .error (.malformed .unbuildable) := by
  rw [Peer.called, Peer.call, Peer.encode, if_neg (by rw [h]; exact Bool.false_ne_true)]
  rfl

theorem called_of_isWritable {p : Peer} {o : Outbound} (h : p.isWritable o = true)
    (c : Client) (peer : Outgoing → Exchange) :
    p.called c o peer = p.interpret o (c.reports (peer (p.outgoing o))) := by
  rw [Peer.called, Peer.call, Peer.encode, if_pos h]
  rfl

section

variable (c : Client) (p : Peer) {o : Outbound} {status : Nat} {headers : List (String × Bytes)}
  {stream : List Buffer.Chunk}

theorem interpret_of_isSuccess (h : IsSuccess status) :
    p.interpret o (c.reports (.answered status headers stream))
      = p.answer headers (arrived stream) (isWhole stream) o := by
  rw [c.reports_of_taken (c.elsewhere_of_isSuccess h), Peer.interpret]
  exact if_pos h

theorem interpret_of_not_isSuccess (h : ¬ IsSuccess status)
    (htaken : c.elsewhere status headers = none) :
    p.interpret o (c.reports (.answered status headers stream))
      = .error (.remoteStatus p.address status) := by
  rw [c.reports_of_taken htaken, Peer.interpret]
  exact if_neg h

/-- An exchange that breaks down is the same to every call. -/
theorem interpret_of_breaksDown {e : Exchange} (h : BreaksDown o e) :
    p.interpret o (c.reports e) = .error (.unreachable p.address .noConnection) := by
  cases h with
  | unconnected => rfl
  | timedOut => rfl
  | cut => rfl
  | brokenOff hstatus hstream hreading =>
      rw [interpret_of_isSuccess c p hstatus, hstream]
      cases o with
      | message envelope respect => rfl
      | _ => cases hreading

theorem answer_of_document (body : Bytes) (hreading : reading o = .document) :
    p.answer headers body true o = ofDocument (document? o body) := by
  cases o with
  | requestVote request => exact document_true ..
  | appendEntries request => exact document_true ..
  | installSnapshot header snapshot => exact document_true ..
  | resign => exact document_true ..
  | metadata => exact document_true ..
  | message envelope respect => cases hreading
  | signal envelope d respect => cases hreading

/-- Of a body that breaks off no part is looked at. -/
theorem answer_of_torn (body : Bytes) (hreading : reading o = .document) :
    p.answer headers body false o = ofDocument none := by
  cases o with
  | message envelope respect => cases hreading
  | signal envelope d respect => cases hreading
  | _ => rfl

/-- A call that looks for no document has nothing to decode. -/
theorem exists_answer (headers : List (String × Bytes)) (body : Bytes)
    (hreading : reading o ≠ .document) :
    document? o body = none ∧ ∃ a, p.answer headers body true o = .ok a := by
  cases o with
  | message envelope respect => exact ⟨rfl, _, rfl⟩
  | signal envelope d respect => exact ⟨rfl, (), rfl⟩
  | _ => exact absurd rfl hreading

end

/-- A stream that brings a body does not break off. -/
theorem isWhole_of_readStream {stream : List Buffer.Chunk} {b : Buffer} {body : Body}
    (h : b.readStream stream = .ok body) : isWhole stream = true := by
  induction stream generalizing b with
  | nil => rfl
  | cons part r ih =>
      cases part with
      | error reason => cases h
      | ok chunk => exact ih h

theorem exists_chunks_of_isWhole {stream : List Buffer.Chunk} (h : isWhole stream = true) :
    ∃ chunks : List Bytes, stream = chunks.map .ok ∧ arrived stream = chunks.flatten := by
  induction stream with
  | nil => exact ⟨[], rfl, rfl⟩
  | cons part r ih =>
      cases part with
      | error reason => cases h
      | ok chunk =>
          obtain ⟨chunks, rfl, hr⟩ := ih h
          exact ⟨chunk :: chunks, rfl, congrArg (chunk ++ ·) hr⟩

/-- A message is received in chunks as it would be in one piece, which is how a reply is read. -/
theorem readStream_of_isWhole {stream : List Buffer.Chunk} (h : isWhole stream = true)
    (threshold : Nat) : (Buffer.new threshold).readStream stream
      = .ok ((Buffer.new threshold).push (arrived stream)).finish := by
  obtain ⟨chunks, rfl, harrived⟩ := exists_chunks_of_isWhole h
  have hpiece := Buffer.readStream_received [chunks.flatten] (Buffer.settled_new threshold)
  rw [List.flatten_singleton, List.map_singleton, Buffer.readStream, Buffer.readStream] at hpiece
  rw [harrived, hpiece]
  exact Buffer.readStream_received chunks (Buffer.settled_new threshold)

theorem called_mapped (c : Client) (p : Peer) (o : Outbound) (peer : Outgoing → Exchange) :
    Mapped c p o (peer (p.outgoing o)) (p.called c o peer) where
  unwritten := fun h => called_of_not_isWritable h c peer
  unreached := by
    intro hw hdown
    rw [called_of_isWritable hw, interpret_of_breaksDown c p hdown]
  refused := by
    intro status headers stream hw he hstatus htaken
    rw [called_of_isWritable hw, he, interpret_of_not_isSuccess c p hstatus htaken]
  followed := by
    intro status headers stream b hw he hfollowed
    rw [called_of_isWritable hw, he, c.reports_of_followed hfollowed]
  undecodable := by
    intro status headers stream hw he hstatus hwhole
    rw [called_of_isWritable hw, he, interpret_of_isSuccess c p hstatus, hwhole]
    by_cases hreading : reading o = .document
    · rw [answer_of_document p _ hreading, ofDocument_undecodable_iff]
      exact ⟨fun h => ⟨hreading, h⟩, And.right⟩
    · obtain ⟨-, a, ha⟩ := exists_answer p headers (arrived stream) hreading
      rw [ha]
      constructor
      · rintro ⟨reason, h⟩
        cases h
      · rintro ⟨h, -⟩
        exact absurd h hreading
  read := by
    intro status headers stream hw he hstatus hwhole
    rw [called_of_isWritable hw, he, interpret_of_isSuccess c p hstatus, hwhole]
    by_cases hreading : reading o = .document
    · rw [answer_of_document p _ hreading]
      refine ⟨fun a ha => ?_, fun h => absurd hreading h⟩
      rw [ha]
      rfl
    · obtain ⟨hnone, hanswer⟩ := exists_answer p headers (arrived stream) hreading
      refine ⟨fun a ha => ?_, fun _ => hanswer⟩
      rw [hnone] at ha
      cases ha
  replied := by
    intro status headers stream body a hw he hstatus hbody hreply
    have hwhole := isWhole_of_readStream hbody
    rw [readStream_of_isWhole hwhole] at hbody
    obtain rfl := Except.ok.inj hbody
    rw [called_of_isWritable hw, he, interpret_of_isSuccess c p hstatus, hwhole]
    cases o with
    | message envelope respect => exact congrArg Except.ok (Option.some.inj hreply)
    | _ => cases hreply
  torn := by
    intro status headers stream hw he hstatus htorn hreading
    rw [called_of_isWritable hw, he, interpret_of_isSuccess c p hstatus, htorn,
      answer_of_torn p _ hreading]
    exact ofDocument_undecodable_iff.mpr rfl
  acknowledged := by
    intro status headers stream hw he hstatus hreading
    rw [called_of_isWritable hw, he, interpret_of_isSuccess c p hstatus]
    cases o with
    | signal envelope d respect => exact ⟨(), rfl⟩
    | _ => cases hreading

/-! ## Liveness -/

/-- A result shows that a member is there: it answered, with whatever status. -/
def Reaches {α : Type} (result : Except Fault α) : Prop :=
  (∃ a, result = .ok a) ∨ ∃ address status, result = .error (.remoteStatus address status)

def Misses {α : Type} (result : Except Fault α) : Prop :=
  ∃ address reason, result = .error (.unreachable address reason)

/-- What is known of a member's liveness before and after a call. A result that neither reaches nor
misses the member leaves it as it is. -/
structure Shows {α : Type} (result : Except Fault α) (before after : Liveness) : Prop where
  unavailable : after = .unavailable ↔ Misses result ∨ ¬ Reaches result ∧ before = .unavailable
  available : after = .available ↔ Reaches result ∨ ¬ Misses result ∧ before = .available

theorem shows_learn {α : Type} (m : Member) (now : Time) (result : Except Fault α) :
    Shows result m.liveness (m.learn now result).liveness := by
  cases result with
  | ok a => constructor <;> simp [Member.learn, Reaches, Misses]
  | error fault => cases fault <;> constructor <;> simp [Member.learn, Reaches, Misses]

variable {ω : Type} [Surroundings ω]

/-- A call that is transmitted and comes to an end shows what its result does. -/
theorem shows_call {n : Node ω} {bound : Bound} {id : MemberId} {o : Outbound} {m : Member}
    {world : ω} {controls : List Control} {result : Except Fault o.Answer}
    (hm : n.member? id = some m) (hi : n.interruption bound id m.address = none)
    (ht : Surroundings.transmit n.world m.address o = (world, controls, .returned result)) :
    (n.call bound id o).2 = .returned result
    ∧ ∃ m', (n.call bound id o).1.member? id = some m'
      ∧ Shows result m.liveness m'.liveness := by
  have hcall : n.call bound id o = ((n.after world controls).updateMember id
      fun m => m.learn (n.after world controls).now result, .returned result) := by
    rw [call, hm]
    dsimp only
    rw [hi]
    dsimp only
    rw [ht]
  have hpulse := samePulses_after n world controls id
  rw [pulse?, pulse?, hm, Option.map_some, Option.map_eq_some_iff] at hpulse
  obtain ⟨k, hk, hsame⟩ := hpulse
  rw [hcall]
  refine ⟨rfl, k.learn (n.after world controls).now result, ?_, ?_⟩
  · rw [member?_updateMember, hk, Option.map_some, if_pos rfl]
  · have hliveness : k.liveness = m.liveness := congrArg Prod.fst hsame
    rw [← hliveness]
    exact shows_learn k _ result

/-- Every call maps what becomes of an exchange alike, and what a node knows of the member
afterwards follows from the result. -/
theorem outcomes_uniform (c : Client) (p : Peer) (o : Outbound) (peer : Outgoing → Exchange) :
    Mapped c p o (peer (p.outgoing o)) (p.called c o peer)
    ∧ ∀ (n : Node ω) (bound : Bound) (id : MemberId) (m : Member) (world : ω)
        (controls : List Control), n.member? id = some m →
        n.interruption bound id m.address = none →
        Surroundings.transmit n.world m.address o
          = (world, controls, .returned (p.called c o peer)) →
        (n.call bound id o).2 = .returned (p.called c o peer)
        ∧ ∃ m', (n.call bound id o).1.member? id = some m'
          ∧ Shows (p.called c o peer) m.liveness m'.liveness :=
  ⟨called_mapped c p o peer, fun _ _ _ _ _ _ hm hi ht => shows_call hm hi ht⟩

/-! ## A member that is asked in vain -/

/-- A client that is received with no content wherever it is sent. -/
def courier : Client where
  elsewhere status headers :=
    if IsRedirection status headers then some (.responds 204 [] [] true) else none
  isRedirection := by
    intro status headers h
    by_contra hredirection
    rw [if_neg hredirection] at h
    cases h

/-- A node among peers that never respond. -/
def lonely : Node Rehearsal.World :=
  let world := Rehearsal.World.start .quiet (.http "[::1]:1" "/raft" 0) []
  ((alone world "[::1]:1" ⟨10, 10, []⟩ (.new default)).enlist "[::1]:2").1

/-- One of these peers. -/
def mute : Peer := ⟨"[::1]:2", "/raft", "[::1]:1", 0⟩

theorem mute_isWritable : mute.isWritable .resign = true := by decide +kernel

/-- A peer that does not respond in time is found to be unavailable. -/
theorem lonely_unreached :
    mute.isWritable .resign = true
    ∧ BreaksDown .resign .timedOut
    ∧ lonely.member? 1 = some (.new "[::1]:2")
    ∧ lonely.interruption .unbounded 1 "[::1]:2" = none
    ∧ Surroundings.transmit lonely.world "[::1]:2" .resign
      = (lonely.world, [], .returned (mute.called courier .resign fun _ => .timedOut))
    ∧ (lonely.call .unbounded 1 .resign).2
      = .returned (.error (.unreachable "[::1]:2" .noConnection))
    ∧ ((lonely.call .unbounded 1 .resign).1.member? 1).map Member.liveness
      = some .unavailable := by
  obtain ⟨hmapped, hcall⟩ :=
    outcomes_uniform (ω := Rehearsal.World) courier mute .resign fun _ => .timedOut
  have hresult := hmapped.unreached mute_isWritable .timedOut
  obtain ⟨hend, m, hm, hshows⟩ :=
    hcall lonely .unbounded 1 (.new "[::1]:2") lonely.world [] rfl rfl rfl
  refine ⟨mute_isWritable, .timedOut, rfl, rfl, rfl, ?_, ?_⟩
  · rw [hend, hresult]
    rfl
  · have hgone := hshows.unavailable.mpr (.inl ⟨_, _, hresult⟩)
    rw [hm, Option.map_some, hgone]

/-- A message whose name cannot be sent. -/
def unsendable : Outbound := .message ⟨⟨0⟩, ⟨"bad\nname", octetStream, .ofBytes []⟩⟩ false

/-- A document after the beginning of which the peer falls silent. -/
def torn : Exchange := .answered 200 [] [.ok (Bytes.ofText "\x7b"), .error "timed out"]

def farewell : Outbound := .signal ⟨⟨0⟩, ⟨"farewell", octetStream, .ofBytes []⟩⟩ .oneWay false

/-- A redirection. -/
def moved : Exchange := .answered 302 [("location", Bytes.ofText "/elsewhere")] []

/-- A document that breaks off is taken for one that cannot be read, and its member is not found to be
unavailable. A redirection is followed to a success. And a member stays unavailable when a call to it
cannot be written. -/
theorem torn_document_undecodable :
    mute.called courier .resign (fun _ => torn)
      = .error (.undecodable "the response is not the JSON document that was expected")
    ∧ ((Member.new "[::1]:2").learn 0 (mute.called courier .resign fun _ => torn)).liveness
      = .unknown
    ∧ mute.called courier farewell (fun _ => moved) = .ok ()
    ∧ let asked := (lonely.call .unbounded 1 .resign).1
      (asked.call .unbounded 1 unsendable).2 = .returned (.error (.malformed .unbuildable))
      ∧ ((asked.call .unbounded 1 unsendable).1.member? 1).map Member.liveness
        = some .unavailable := by
  have htorn : mute.called courier .resign (fun _ => torn)
      = .error (.undecodable "the response is not the JSON document that was expected") := by
    rw [called_of_isWritable mute_isWritable]
    rfl
  have hwritable : mute.isWritable farewell = true := by
    decide +kernel
  refine ⟨htorn, ?_, ?_, rfl, rfl⟩
  · rw [htorn]
    rfl
  · rw [called_of_isWritable hwritable]
    rfl

end Conclave.Http

import Conclave.Proofs.Http.Refusal
import Conclave.Proofs.Http.Carriage
import Conclave.Proofs.Node.Places
import Conclave.Proofs.Node.Standing

/-!
# The short cut to the own node

An errand whose leader is the own node is not sent over HTTP. `dispatchHere` hands it to the node at
once and reads the reply off by hand. `roundTrip` is the way that it cuts short: the call is
written, arrives at the own endpoint, is decoded and answered, and the response is read. The two
agree: the same message is received, the node is the same afterwards, and what the sender is told
means the same to it.

The round trip is first compared with the short cut of the errand as it would be received
(`Errand.received`), with no difference at all (`alike_received`). An errand and what is received of
it come to the same wherever handlers do not look at the places of bodies.
-/

namespace Conclave.Http

open Wire Node

variable {ω : Type}

/-! ## The round trip -/

/-- A response as it arrives when it is carried without a change. -/
def Response.carried (r : Response) : Behaviour :=
  .responds r.status (r.headers.map fun h => (h.1, Bytes.ofText h.2)) r.body true

/-- An errand that goes over HTTP and arrives at an endpoint as a request: the node once the
response has been read, and what the sender is told. -/
def roundTrip [Surroundings ω] (p : Peer) (s : Service) (r : Incoming) (n : Node ω) (x : Errand) :
    Node ω × Ending (Except Fault x.Answer) :=
  match s.respond n r with
  | (n, .returned response) =>
    (response.close n, .returned (p.call x.outbound fun _ => response.carried))
  | (n, .never) => (n, .never)

/-- An errand that passes the check of its message goes from a node to its own endpoint. The filter
admits the request, and HTTP carries it there. -/
structure CallsItself (p : Peer) (s : Service) (r : Incoming) (n : Node ω) (x : Errand) : Prop where
  sound : x.IsSound
  check : x.envelope.message.check = .ok ()
  address : p.address = n.registry.localAddress
  sender : p.sender = n.registry.localAddress
  sendable : isFieldValue p.sender = true
  locator : isLocator (p.address ++ p.path) = true
  admitted : admitsPeer n.registry.networks r.peer = true
  route : s.route.admits r.route = true
  method : r.method = "POST"
  arrives : Arrives (p.outgoing x.outbound) r

theorem Arrives.body_eq {p : Peer} {o : Outbound} {r : Incoming} (h : Arrives (p.outgoing o) r)
    (s : Service) : s.body r = .ok (.received s.spillThreshold (Peer.content o)) := by
  obtain ⟨chunks, hchunks, hflat⟩ := h.body
  have hkind : r.fields.parse Field.kind Kind.read? = .ok (Peer.kindOf o) := by
    refine Fields.parse_of_get? h.carries.head ?_
    rw [Kind.trim_tag, Kind.read?_tag]
  have hread := Buffer.readStream_received chunks (Buffer.settled_new s.spillThreshold)
  rw [Service.body, hkind, hchunks, hread, ← show chunks.flatten = Peer.content o from hflat]
  rfl

theorem requested_outbound (p : Peer) (x : Errand) (threshold : Nat) :
    p.requested (.received threshold (Peer.content x.outbound)) x.outbound
      = .custom ((x.received threshold).delivered p.sender) := by
  cases x <;> rfl

variable [Surroundings ω]

namespace CallsItself

variable {p : Peer} {s : Service} {r : Incoming} {n : Node ω} {x : Errand}

omit [Surroundings ω] in
theorem decoded (h : CallsItself p s r n x) :
    s.body r = .ok (.received s.spillThreshold x.envelope.message.body.content)
    ∧ Request.decode r.fields (.received s.spillThreshold x.envelope.message.body.content)
      = .ok (.custom ((x.received s.spillThreshold).delivered n.registry.localAddress)) := by
  have hcontent : Peer.content x.outbound = x.envelope.message.body.content := by
    cases x <;> rfl
  rw [← hcontent]
  refine ⟨h.arrives.body_eq s, ?_⟩
  rw [decode_requested h.arrives.carries rfl, requested_outbound, h.sender]

theorem respond_eq (h : CallsItself p s r n x) :
    let out := n.receiveMessage ((x.received s.spillThreshold).delivered n.registry.localAddress)
    s.respond n r = (out.1, responded out.2) := by
  obtain ⟨hbody, hdecode⟩ := h.decoded
  rw [Service.respond, if_pos h.admitted, Service.resource, h.route, Bool.not_true,
    if_neg Bool.false_ne_true, if_neg (not_not_intro h.method), consensus_of_body n hbody, dispatch,
    hdecode]
  rfl

omit [Surroundings ω] in
theorem call_eq (h : CallsItself p s r n x) (peer : Outgoing → Behaviour) :
    p.call x.outbound peer = p.interpret x.outbound (peer (p.outgoing x.outbound)) := by
  have hdefect : x.envelope.message.defect? = none := by
    have hcheck := h.check
    rw [Message.check] at hcheck
    split at hcheck
    · cases hcheck
    · assumption
  have henvelope : ∀ e, x.outbound.envelope? = some e → e.message.defect? = none := by
    intro e he
    cases x <;> (obtain rfl := Option.some.inj he; exact hdefect)
  rw [Peer.call, encode_of_isLocator h.sendable henvelope h.locator]
  rfl

end CallsItself

/-! ## Replies -/

theorem release_ofReply (reply : Reply) : (Response.ofReply reply).release = reply.gate? := by
  cases reply with
  | message m =>
      rw [Response.ofReply]
      split <;> rfl
  | _ => rfl

theorem interpret_of_not_success (p : Peer) (o : Outbound) {response : Response}
    (h : ¬ (200 ≤ response.status ∧ response.status < 300)) :
    p.interpret o response.carried = .error (.remoteStatus p.address response.status) := by
  rw [Response.carried, Peer.interpret, if_neg h]

/-- A reply that can be sent is read as it was written. -/
theorem reply_carried (p : Peer) (m : Message) :
    p.reply ([(Field.contentType, m.contentType), (Field.messageName, m.name)].map
        fun h => (h.1, Bytes.ofText h.2)) m.body.content true
      = .ok ⟨m.name, m.contentType,
          ((Buffer.new p.spillThreshold).push m.body.content).finish⟩ := by
  have hother : Text.sameLetters Field.contentType Field.messageName = false := by decide +kernel
  have hname : Text.sameLetters Field.messageName Field.messageName = true :=
    Text.sameLetters_iff.mpr rfl
  have htype : Text.sameLetters Field.contentType Field.contentType = true :=
    Text.sameLetters_iff.mpr rfl
  simp [Peer.reply, Peer.header?, hother, hname, htype, Bytes.text?_ofText]

theorem interpret_of_sendable (p : Peer) (e : Envelope) {m : Message} (h : isSendable m = true) :
    p.interpret (.message e true) (Response.ofReply (.message m)).carried
      = .ok ⟨m.name, m.contentType,
          ((Buffer.new p.spillThreshold).push m.body.content).finish⟩ := by
  rw [Response.ofReply, ← isSendable, if_pos h]
  exact reply_carried p m

theorem interpret_of_unsendable (p : Peer) (o : Outbound) {m : Message} (h : isSendable m = false) :
    p.interpret o (Response.ofReply (.message m)).carried
      = .error (.remoteStatus p.address Status.internalError.code) := by
  rw [Response.ofReply, ← isSendable, h, if_neg Bool.false_ne_true]
  exact interpret_of_not_success p o (by decide)

/-! ## Both ways side by side -/

theorem ownResult_status (address : String) (x : Errand) (status : Status) :
    ownResult address x (.status status) = .error (.remoteStatus address status.code) := by
  cases x <;> rfl

theorem accepted_acceptSignal (n : Node ω) (h : HandlerId) (d : Delivered) :
    ∃ gate, (n.acceptSignal h d).2 = .accepted gate := by
  have haccepted := acceptSignal_accepted n h d
  generalize n.acceptSignal h d = r at haccepted ⊢
  cases haccepted <;> exact ⟨_, rfl⟩

section

variable {p : Peer} {s : Service} {r : Incoming} {n m : Node ω} {x : Errand}

/-- The short cut reads a reply off, and what a response would have released is released. -/
theorem dispatchHere_of_reply {reply : Reply}
    (h : n.receiveMessage (x.delivered n.registry.localAddress) = (m, .returned (.ok reply))) :
    n.dispatchHere x = ((Response.ofReply reply).close m,
      .returned (ownResult n.registry.localAddress x reply)) := by
  have hregistry : m.registry = n.registry := by
    rw [← registry_receiveMessage n (x.delivered n.registry.localAddress), h]
  rw [dispatchHere, h, Response.close, release_ofReply, ← hregistry]
  dsimp only
  cases reply.gate? <;> rfl

theorem roundTrip_of_reply (h : CallsItself p s r n x) {reply : Reply}
    (hreceived : n.receiveMessage
      ((x.received s.spillThreshold).delivered n.registry.localAddress)
        = (m, .returned (.ok reply))) :
    roundTrip p s r n x = ((Response.ofReply reply).close m,
      .returned (p.interpret x.outbound (Response.ofReply reply).carried)) := by
  rw [roundTrip, h.respond_eq, hreceived]
  simp only [responded, h.call_eq]

/-- A refusal is told alike. -/
theorem alike_refused (h : CallsItself p s r n x) {status : Status}
    (hstatus : status ∈ [.notFound, .notImplemented, .serviceUnavailable])
    (hreceived : n.receiveMessage
      ((x.received s.spillThreshold).delivered n.registry.localAddress)
        = (m, .returned (.ok (.status status)))) :
    Alike n.registry.localAddress (· = ·) (x.received s.spillThreshold) x
      (n.dispatchHere (x.received s.spillThreshold)) (roundTrip p s r n x) := by
  have hfailure : ¬ (200 ≤ status.code ∧ status.code < 300) := by
    simp only [List.mem_cons, List.not_mem_nil, or_false] at hstatus
    rcases hstatus with rfl | rfl | rfl <;> decide
  have hinterpret : p.interpret x.outbound (Response.ofReply (.status status)).carried
      = .error (.remoteStatus n.registry.localAddress status.code) := by
    rw [← h.address]
    exact interpret_of_not_success p x.outbound hfailure
  rw [dispatchHere_of_reply hreceived, roundTrip_of_reply h hreceived, ownResult_status, hinterpret]
  refine .of_agrees rfl ?_ (x.retryStatus_received s.spillThreshold)
  rw [outcome_error, outcome_error]
  exact .refused hstatus

theorem alike_questioned (h : CallsItself p s r n x) {e : Envelope} (hx : x = .request e)
    {id : HandlerId} (hreceived : n.receiveMessage
      ((x.received s.spillThreshold).delivered n.registry.localAddress)
        = m.answer id ((x.received s.spillThreshold).delivered n.registry.localAddress)) :
    Alike n.registry.localAddress (· = ·) (x.received s.spillThreshold) x
      (n.dispatchHere (x.received s.spillThreshold)) (roundTrip p s r n x) := by
  subst hx
  rw [Node.answer] at hreceived
  split at hreceived
  · rename_i world controls reply _
    rw [dispatchHere_of_reply hreceived, roundTrip_of_reply h hreceived, ← h.address]
    cases hsendable : isSendable reply with
    | true =>
        have hinterpret : p.interpret (Errand.request e).outbound
            (Response.ofReply (.message reply)).carried = .ok _ :=
          interpret_of_sendable p e hsendable
        rw [hinterpret]
        refine .of_agrees rfl (.replied hsendable rfl rfl ?_) rfl
        rw [Buffer.finish, Buffer.content_push]
        rfl
    | false =>
        rw [interpret_of_unsendable p _ hsendable]
        exact .of_agrees rfl (.unsendable hsendable) rfl
  · rename_i world controls chain _
    have hinterpret : p.interpret (Errand.request e).outbound
        (Response.ofFault (.handler chain)).carried
          = .error (.remoteStatus n.registry.localAddress Status.internalError.code) := by
      have hstatus : (Response.ofFault (.handler chain)).status = 500 := rfl
      rw [← h.address]
      exact interpret_of_not_success p _ (by rw [hstatus]; decide)
    rw [dispatchHere, hreceived, roundTrip, h.respond_eq, hreceived]
    simp only [responded, h.call_eq, hinterpret]
    exact .of_agrees rfl .failed rfl
  · rw [dispatchHere, hreceived, roundTrip, h.respond_eq, hreceived]
    exact .never rfl

theorem alike_signalled (h : CallsItself p s r n x) {e : Envelope} {d : Delivery}
    (hx : x = .signal e d) {gate : Option Gate} (hreceived : n.receiveMessage
      ((x.received s.spillThreshold).delivered n.registry.localAddress)
        = (m, .returned (.ok (.accepted gate)))) :
    Alike n.registry.localAddress (· = ·) (x.received s.spillThreshold) x
      (n.dispatchHere (x.received s.spillThreshold)) (roundTrip p s r n x) := by
  subst hx
  rw [dispatchHere_of_reply hreceived, roundTrip_of_reply h hreceived]
  exact .of_agrees rfl .accepted rfl

/-- The short cut of an errand as it would be received is the round trip, step for step. -/
theorem alike_received (h : CallsItself p s r n x) :
    Alike n.registry.localAddress (· = ·) (x.received s.spillThreshold) x
      (n.dispatchHere (x.received s.spillThreshold)) (roundTrip p s r n x) := by
  have hreceived := receiveMessage_received n
    ((x.received s.spillThreshold).delivered n.registry.localAddress)
  generalize hout : n.receiveMessage _ = out at hreceived
  cases hreceived with
  | stranger hs => exact alike_refused h (by decide) hout
  | misdirected hs hl => exact alike_refused h (by decide) hout
  | unsupported hs ht hf => exact alike_refused h (by decide) hout
  | @questioned id handler hs ht hf hd =>
      cases x with
      | request e => exact alike_questioned h rfl hout
      | signal e d =>
          have hone : d.isOneWay = true := h.sound
          obtain rfl : d = .requestReply := hd
          cases hone
  | @signalled id handler hs ht hf hd =>
      cases x with
      | request e => exact absurd rfl hd
      | signal e d =>
          obtain ⟨gate, hgate⟩ := accepted_acceptSignal (n.touch id) handler
            (((Errand.signal e d).received s.spillThreshold).delivered n.registry.localAddress)
          rw [hgate] at hout
          exact alike_signalled h rfl hout

end

/-! ## The errand as it is -/

omit [Surroundings ω] in
theorem close_sameButPlaces (response : Response) {n m : Node ω} (h : SameButPlaces n m) :
    SameButPlaces (response.close n) (response.close m) := by
  rw [Response.close, Response.close]
  split
  · exact h.release _
  · exact h

omit [Surroundings ω] in
theorem close_of_sameReply {reply reply' : Reply} (h : SameReply reply reply') (n : Node ω) :
    (Response.ofReply reply').close n = (Response.ofReply reply).close n := by
  rw [Response.close, Response.close, release_ofReply, release_ofReply]
  cases h <;> rfl

/-- Where handlers do not look at the places of bodies, an errand ends as it would if it had been
received. -/
theorem alike_of_received (hbytes : BytesOnly ω) {n : Node ω} {x y : Errand} {threshold : Nat}
    {out : Node ω × Ending (Except Fault y.Answer)} (hretry : x.retryStatus = y.retryStatus)
    (h : Alike n.registry.localAddress (· = ·) (x.received threshold) y
      (n.dispatchHere (x.received threshold)) out) :
    Alike n.registry.localAddress SameButPlaces x y (n.dispatchHere x) out := by
  have hbody : (Body.received threshold x.envelope.message.body.content).content
      = (x.delivered n.registry.localAddress).message.body.content := rfl
  obtain ⟨hresult, hsame⟩ := sameButPlaces_receiveMessage hbytes n hbody
  rw [← x.delivered_received] at hresult hsame
  generalize hthere : n.receiveMessage ((x.received threshold).delivered n.registry.localAddress)
    = there at hresult hsame
  generalize hhere : n.receiveMessage (x.delivered n.registry.localAddress) = here at hresult hsame
  obtain ⟨m', result'⟩ := there
  obtain ⟨m, result⟩ := here
  cases hresult with
  | never =>
      rw [dispatchHere, hthere] at h
      rw [dispatchHere, hhere]
      cases h with
      | never heq => exact .never (heq ▸ hsame)
  | failed f =>
      rw [dispatchHere, hthere] at h
      rw [dispatchHere, hhere]
      cases h with
      | returned heq hagrees _ =>
          refine .of_agrees (heq ▸ hsame) ?_ hretry
          rw [outcome_error] at hagrees ⊢
          exact hagrees
  | @replied reply reply' hreply =>
      rw [dispatchHere_of_reply hthere, close_of_sameReply hreply] at h
      rw [dispatchHere_of_reply hhere]
      cases h with
      | returned heq hagrees _ =>
          exact .of_agrees (heq ▸ close_sameButPlaces _ hsame) (hagrees.of_sameReply hreply) hretry

/-- An errand to the own node ends the same, whether it goes over HTTP or takes the short cut. The
endpoint receives the message that the short cut hands over, with its body at a place of its own. -/
theorem shortcut_agrees {p : Peer} {s : Service} {r : Incoming} {n : Node ω} {x : Errand}
    (h : CallsItself p s r n x) :
    let body := Body.received s.spillThreshold x.envelope.message.body.content
    (s.body r = .ok body ∧ Request.decode r.fields body
        = .ok (.custom ((x.delivered n.registry.localAddress).withBody body)))
    ∧ Alike n.registry.localAddress (· = ·) (x.withBody body) x
        (n.dispatchHere (x.withBody body)) (roundTrip p s r n x)
    ∧ (BytesOnly ω → Alike n.registry.localAddress SameButPlaces x x
        (n.dispatchHere x) (roundTrip p s r n x)) := by
  have hdecoded := h.decoded
  have hreceived := alike_received h
  rw [x.delivered_received] at hdecoded
  exact ⟨hdecoded, hreceived, fun hbytes => alike_of_received hbytes rfl hreceived⟩

/-! ## A node that asks itself -/

/-- Surroundings in which the leader is known and every handler gives back what it is asked. -/
structure Echo where
  leader : String

instance : Surroundings Echo where
  elapse w := (w, [])
  now _ := 0
  term _ := 0
  leader w := some w.leader
  receive w _ _ := (w, [], .ok true)
  supports _ _ _ := true
  answer w _ _ m := (w, [], .returned (.ok m))
  take w _ _ _ := (w, [], .returned ())
  transmit w _ _ := (w, [], .never)
  accept _ _ := .ok ()
  freshId w := (⟨0⟩, w)
  hear w _ := w

theorem bytesOnly_echo : BytesOnly Echo :=
  fun _ _ _ m b hb => ⟨rfl, rfl, .replied m b hb⟩

/-- A node that leads, with a handler. -/
def selfish : Node Echo :=
  { alone ⟨"[::1]:1"⟩ "[::1]:1" ⟨10, 10, []⟩ (.new default) with handlers := Handlers.empty.add 0 }

def selfishPeer : Peer := ⟨"[::1]:1", "/raft", "[::1]:1", 1024⟩

/-- The endpoint of the node. It keeps no body in memory. -/
def selfishService : Service := ⟨"/raft", .exact "/raft", 0⟩

def selfishPosted : Incoming := (selfishPeer.outgoing questionOfItself.outbound).posted "/raft"

theorem selfish_callsItself :
    CallsItself selfishPeer selfishService selfishPosted selfish questionOfItself where
  sound := trivial
  check := by decide
  address := rfl
  sender := rfl
  sendable := by decide
  locator := by decide +kernel
  admitted := rfl
  route := by
    have hroute : selfishPosted.route = "/raft" := route_questionForLeader
    rw [selfishService, Route.admits, hroute]
    rfl
  method := rfl
  arrives := arrives_posted ..

/-- A question to itself is answered at once as it is over HTTP, where its body goes through a
file. -/
theorem selfish_shortcut :
    CallsItself selfishPeer selfishService selfishPosted selfish questionOfItself
    ∧ BytesOnly Echo
    ∧ (selfish.dispatchHere questionOfItself).2
        = .returned (.ok questionOfItself.envelope.message)
    ∧ Alike "[::1]:1" SameButPlaces questionOfItself questionOfItself
        (selfish.dispatchHere questionOfItself)
        (roundTrip selfishPeer selfishService selfishPosted selfish questionOfItself) :=
  ⟨selfish_callsItself, bytesOnly_echo, rfl,
    (shortcut_agrees selfish_callsItself).2.2 bytesOnly_echo⟩

end Conclave.Http

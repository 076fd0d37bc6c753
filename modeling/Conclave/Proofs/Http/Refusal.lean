import Conclave.Http.Service
import Conclave.Node.Lifecycle
import Conclave.Proofs.Node.Receiving
import Conclave.Proofs.Node.Recorded
import Conclave.Rehearsal.World

/-!
# Refusals

A status that tells a sender that its request was refused (`refusals`) is given only by a request
that did nothing but to show that its sender is alive: neither the engine nor a handler was asked,
no signal was accepted, and no sighting was taken. So a sender may try again after such a status
without having anything executed twice. The same holds for an attempt at the own node.

The proof names the endings of a request after which something may have been executed
(`MayExecute`). Before such an ending only `members` changes (`OnlyMembers`), and such an ending
never answers with a refusal.
-/

namespace Conclave.Node

open Wire

variable {ω : Type}

/-- Two nodes differ at most in what they know of their members. -/
def OnlyMembers (n n' : Node ω) : Prop := ∃ ms, n' = { n with members := ms }

theorem OnlyMembers.refl (n : Node ω) : OnlyMembers n n := ⟨n.members, rfl⟩

section

variable [Surroundings ω]

theorem onlyMembers_touch (n : Node ω) (id : MemberId) : OnlyMembers n (n.touch id) := ⟨_, rfl⟩

/-- Whether a request may have been executed, going by how it ended: it reached the engine or a
handler, or its signal was accepted. -/
def MayExecute : Ending (Except Fault Reply) → Prop
  | .never => True
  | .returned (.ok (.raft _)) => True
  | .returned (.ok (.message _)) => True
  | .returned (.ok (.accepted _)) => True
  | .returned (.error (.consensus _)) => True
  | .returned (.error (.handler _)) => True
  | _ => False

theorem mayExecute_answer (n : Node ω) (h : HandlerId) (d : Delivered) :
    MayExecute (n.answer h d).2 := by
  unfold answer
  split <;> trivial

theorem mayExecute_consult (n : Node ω) (id : MemberId) (sender : String)
    (call : ConsensusCall) : MayExecute (.returned (n.consult id sender call).2) := by
  unfold consult
  dsimp only
  split <;> trivial

/-- A message that was not executed left the node alone. -/
theorem onlyMembers_or_mayExecute_receiveMessage (n : Node ω) (d : Delivered) :
    OnlyMembers n (n.receiveMessage d).1 ∨ MayExecute (n.receiveMessage d).2 := by
  have hr := n.receiveMessage_received d
  revert hr
  generalize n.receiveMessage d = out
  intro hr
  cases hr with
  | stranger _ => exact .inl (.refl n)
  | misdirected _ _ => exact .inl (onlyMembers_touch n _)
  | unsupported _ _ _ => exact .inl (onlyMembers_touch n _)
  | questioned _ _ _ _ => exact .inr (mayExecute_answer _ _ d)
  | @signalled id h _ _ _ _ =>
      have ha := (n.touch id).acceptSignal_accepted h d
      revert ha
      generalize (n.touch id).acceptSignal h d = accepted
      intro ha
      refine .inr ?_
      cases ha <;> trivial

theorem onlyMembers_or_mayExecute_receiveOrder (n : Node ω) (sender : String)
    (call : ConsensusCall) : OnlyMembers n (n.receiveOrder sender call).1
      ∨ MayExecute (.returned (n.receiveOrder sender call).2) := by
  unfold receiveOrder
  split
  · exact .inl (.refl n)
  · exact .inr (mayExecute_consult ..)

theorem onlyMembers_or_mayExecute_route (n : Node ω) (request : Request) :
    OnlyMembers n (n.route request).1 ∨ MayExecute (n.route request).2 := by
  cases request with
  | requestVote sender vote =>
      simp only [route, receiveVote]
      split
      · exact .inr trivial
      · exact .inr (mayExecute_consult ..)
  | appendEntries sender entries => exact onlyMembers_or_mayExecute_receiveOrder ..
  | installSnapshot sender header snapshot => exact onlyMembers_or_mayExecute_receiveOrder ..
  | resign sender => exact onlyMembers_or_mayExecute_receiveOrder ..
  | metadata sender =>
      simp only [route, tellMetadata]
      split
      · exact .inl (onlyMembers_touch n _)
      · exact .inl (.refl n)
  | custom d => exact onlyMembers_or_mayExecute_receiveMessage n d

theorem onlyMembers_or_mayExecute_dispatch (n : Node ω) (fields : Fields) (body : Body) :
    OnlyMembers n (n.dispatch fields body).1 ∨ MayExecute (n.dispatch fields body).2 := by
  unfold dispatch
  split
  · exact .inl (.refl n)
  · exact onlyMembers_or_mayExecute_route n _

end

/-- Between two states of a node nothing was executed: neither the engine nor a handler was asked,
no signal was accepted, and no sighting was taken. -/
structure Unexecuted (n n' : Node (Recorded ω)) : Prop where
  asked : n'.world.asked = n.world.asked
  tasks : n'.tasks = n.tasks
  sightings : n'.sightings = n.sightings

theorem OnlyMembers.unexecuted {n n' : Node (Recorded ω)} (h : OnlyMembers n n') :
    Unexecuted n n' := by
  obtain ⟨ms, rfl⟩ := h
  exact ⟨rfl, rfl, rfl⟩

end Conclave.Node

namespace Conclave.Http

open Wire Node

variable {ω : Type} [Surroundings ω]

/-! ## Statuses -/

/-- The statuses by which a sender learns that its request was refused. -/
def refusals : List Nat :=
  [Status.badRequest, .forbidden, .notFound, .notImplemented, .serviceUnavailable].map Status.code

/-- The statuses that ask for another attempt are refusals. -/
theorem retryStatus_mem_refusals (x : Errand) : x.retryStatus.code ∈ refusals := by
  cases x <;> simp [Errand.retryStatus, refusals, Status.code]

theorem status_ofReply_of_mayExecute {reply : Reply} (h : MayExecute (.returned (.ok reply))) :
    (Response.ofReply reply).status ∉ refusals := by
  cases reply with
  | raft result => simp [Response.ofReply, Response.document, refusals, Status.code]
  | metadata m => exact h.elim
  | message m =>
      rw [Response.ofReply]
      split <;> simp [refusals, Status.code]
  | accepted release => simp [Response.ofReply, refusals, Status.code]
  | status s => exact h.elim

theorem status_ofFault_of_mayExecute {fault : Fault}
    (h : MayExecute (.returned (.error fault))) :
    (Response.ofFault fault).status ∉ refusals := by
  have hcode : Status.internalError.code ∉ refusals := by decide
  cases fault with
  | consensus chain => exact hcode
  | handler chain => exact hcode
  | _ => exact h.elim

/-! ## Requests -/

theorem onlyMembers_consensus (s : Service) {n n' : Node ω} {r : Incoming} {response : Response}
    (h : s.consensus n r = (n', .returned response)) (hs : response.status ∈ refusals) :
    OnlyMembers n n' := by
  rw [Service.consensus] at h
  split at h
  · obtain ⟨rfl, -⟩ := Prod.mk.inj h
    exact .refl n
  · rename_i body hb
    have hd := onlyMembers_or_mayExecute_dispatch n r.fields body
    split at h <;> rename_i m _ heq <;> rw [heq] at hd <;> obtain ⟨rfl, he⟩ := Prod.mk.inj h
    · obtain rfl := Ending.returned.inj he
      exact hd.resolve_right fun hm => status_ofReply_of_mayExecute hm hs
    · obtain rfl := Ending.returned.inj he
      exact hd.resolve_right fun hm => status_ofFault_of_mayExecute hm hs
    · cases he

/-- A request that is refused, by whatever part of the service, left the node alone. -/
theorem onlyMembers_respond (s : Service) {n n' : Node ω} {r : Incoming} {response : Response}
    (h : s.respond n r = (n', .returned response)) (hs : response.status ∈ refusals) :
    OnlyMembers n n' := by
  rw [Service.respond] at h
  split at h
  · rw [Service.resource] at h
    split at h
    · obtain ⟨rfl, -⟩ := Prod.mk.inj h
      exact .refl n
    · split at h
      · obtain ⟨rfl, -⟩ := Prod.mk.inj h
        exact .refl n
      · exact onlyMembers_consensus s h hs
  · obtain ⟨rfl, -⟩ := Prod.mk.inj h
    exact .refl n

/-! ## Attempts at the own node -/

theorem status_of_ownResult {address a : String} {x : Errand} {reply : Reply} {status : Nat}
    (h : ownResult address x reply = .error (.remoteStatus a status)) :
    status = reply.toStatus.code := by
  unfold ownResult at h
  split at h
  · cases h
  · cases h
  · simp only [Except.error.injEq, Fault.remoteStatus.injEq] at h
    exact h.2.symm

/-- A dispatch to the own node that is refused left the node alone. -/
theorem onlyMembers_dispatchHere {n n' : Node ω} {x : Errand} {address : String} {status : Nat}
    (h : n.dispatchHere x = (n', .returned (.error (.remoteStatus address status))))
    (hs : status ∈ refusals) : OnlyMembers n n' := by
  rw [dispatchHere] at h
  have hd := onlyMembers_or_mayExecute_receiveMessage n (x.delivered n.registry.localAddress)
  split at h
  · rename_i m reply heq
    obtain ⟨rfl, he⟩ := Prod.mk.inj h
    rw [heq] at hd
    rw [status_of_ownResult (Ending.returned.inj he)] at hs
    cases reply with
    | status s => exact hd.resolve_right id
    | raft result => simp [Reply.toStatus, refusals, Status.code] at hs
    | metadata m => simp [Reply.toStatus, refusals, Status.code] at hs
    | message m => simp [Reply.toStatus, refusals, Status.code] at hs
    | accepted release => simp [Reply.toStatus, refusals, Status.code] at hs
  · rename_i m fault heq
    obtain ⟨rfl, he⟩ := Prod.mk.inj h
    obtain rfl := Except.error.inj (Ending.returned.inj he)
    rw [heq] at hd
    exact hd.resolve_right id
  · cases h

/-- An attempt at the own node is refused as the dispatch that it makes. -/
theorem dispatchHere_of_attemptHere {n n' : Node ω} {bound : Bound} {x : Errand}
    {address : String} {status : Nat}
    (h : n.attemptHere bound x = (n', .returned (.error (.remoteStatus address status)))) :
    n.dispatchHere x = (n', .returned (.error (.remoteStatus address status))) := by
  rw [attemptHere] at h
  split at h
  · cases h
  · split at h
    · rename_i heq
      rw [heq, h]
    · dsimp only at h
      split at h <;> cases h

/-! ## Refusals -/

/-- A status that asks a sender for another attempt is a refusal, and after a refusal, over HTTP or
at the own node, nothing was executed. -/
theorem refusal_executes_nothing (n : Node (Recorded ω)) :
    (∀ x : Errand, x.retryStatus.code ∈ refusals)
    ∧ (∀ (s : Service) (r : Incoming) (n' : Node (Recorded ω)) (response : Response),
        s.respond n r = (n', .returned response) → response.status ∈ refusals →
        Unexecuted n n')
    ∧ (∀ (x : Errand) (n' : Node (Recorded ω)) (address : String) (status : Nat),
        n.dispatchHere x = (n', .returned (.error (.remoteStatus address status))) →
        status ∈ refusals → Unexecuted n n')
    ∧ (∀ (bound : Bound) (x : Errand) (n' : Node (Recorded ω)) (address : String) (status : Nat),
        n.attemptHere bound x = (n', .returned (.error (.remoteStatus address status))) →
        status ∈ refusals → Unexecuted n n') := by
  refine ⟨retryStatus_mem_refusals, ?_, ?_, ?_⟩
  · intro s r n' response h hs
    exact (onlyMembers_respond s h hs).unexecuted
  · intro x n' address status h hs
    exact (onlyMembers_dispatchHere h hs).unexecuted
  · intro bound x n' address status h hs
    exact (onlyMembers_dispatchHere (dispatchHere_of_attemptHere h) hs).unexecuted

def withoutLeader : Node (Recorded Rehearsal.World) :=
  .alone ⟨.start .quiet .scripted [], []⟩ "a:1" ⟨10, 10, []⟩ (.new default)

/-- A question of a member for the leader. -/
def questionForLeader : Incoming where
  method := "POST"
  path := "/raft"
  peer := none
  headers :=
    [(Field.kind, Bytes.ofText "CustomMessage"), (Field.sender, Bytes.ofText "a:1"),
      (Field.respectLeadership, Bytes.ofText "true"), (Field.messageName, Bytes.ofText "lock")]
  body := [.ok (Bytes.ofText "jobs")]

def questionOfItself : Errand :=
  .request ⟨⟨1⟩, ⟨"lock", octetStream, .ofBytes (Bytes.ofText "jobs")⟩⟩

theorem route_questionForLeader : questionForLeader.route = "/raft" := by
  have htext : Bytes.ofText "/raft" = [47, 114, 97, 102, 116] := rfl
  have hdecode : Incoming.route.decode "/raft".toList = Bytes.ofText "/raft" := by
    simp [Incoming.route.decode]
    rfl
  have hroute : questionForLeader.route
      = Bytes.repaired (Incoming.route.decode "/raft".toList) := rfl
  rw [hroute, hdecode, htext]
  simp [Bytes.repaired, Bytes.repairedChars]

/-- A node that does not lead refuses both questions with 503 and executes nothing. -/
theorem refusal_without_leader :
    let served := Service.respond ⟨"/raft", .exact "/raft", 1024⟩ withoutLeader questionForLeader
    let attempted := withoutLeader.attemptHere .lifetime questionOfItself
    (served.2 = .returned (.bare 503) ∧ Unexecuted withoutLeader served.1)
    ∧ attempted.2 = .returned (.error (.remoteStatus "a:1" 503))
    ∧ Unexecuted withoutLeader attempted.1 := by
  have hadmits : admitsPeer withoutLeader.registry.networks questionForLeader.peer = true := rfl
  have h : (Service.respond ⟨"/raft", .exact "/raft", 1024⟩ withoutLeader questionForLeader).2
      = .returned (.bare 503) := by
    rw [Service.respond, if_pos hadmits, Service.resource, route_questionForLeader]
    rfl
  have ha : (withoutLeader.attemptHere .lifetime questionOfItself).2
      = .returned (.error (.remoteStatus "a:1" 503)) := rfl
  obtain ⟨-, served, -, attempted⟩ := refusal_executes_nothing withoutLeader
  exact ⟨⟨h, served _ _ _ (.bare 503) (Prod.ext rfl h) (by decide)⟩, ha,
    attempted _ _ _ "a:1" 503 (Prod.ext rfl ha) (by decide)⟩

end Conclave.Http

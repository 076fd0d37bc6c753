import Conclave.Http.Service
import Conclave.Proofs.Node.Errands
import Conclave.Proofs.Node.Sightings

/-!
# Histories of a node

`Event` lists what can happen at a node that is not shut down: requests that arrive over HTTP, errands
that the node hands to itself, calls to other members, changes of the handlers and of whatever surrounds
the node, passes of reconciliation, tasks that run, and sightings that are trimmed. A history is any
list of events. `Effect` says what one of them does to the sightings and the tasks of a node, and which
signal it accepts.
-/

namespace Conclave.Node

open Wire
open Http (Service Incoming Response)

variable {ω : Type}

/-- Something that happens at a node. -/
inductive Event (ω : Type) where
  /-- A request arrives. -/
  | posted (s : Service) (r : Incoming)
  /-- A request that passed the filter some time ago has been received. -/
  | admitted (s : Service) (r : Incoming)
  /-- A response has been read or dropped. -/
  | released (gate : Gate)
  | attempted (bound : Bound) (x : Errand)
  | called (bound : Bound) (id : MemberId) (o : Outbound)
  | handlerAdded (h : HandlerId)
  | handlerRemoved (h : HandlerId)
  | wished (c : Control)
  /-- The surroundings are in another state: another leader, another time, other handlers. -/
  | shifted (world : ω)
  | elapsed
  | begun (givenUp : Bool)
  | started
  | reconciled (desired : Membership)
  | turned (a : Allowance)
  | tasksRun
  | trimmed

variable [Surroundings ω]

def happen (n : Node ω) : Event ω → Node ω
  | .posted s r => (s.respond n r).1
  | .admitted s r => (s.consensus n r).1
  | .released gate => n.release gate
  | .attempted bound x => (n.attemptHere bound x).1
  | .called bound id o => (n.call bound id o).1
  | .handlerAdded h => { n with handlers := n.handlers.add h }
  | .handlerRemoved h => { n with handlers := (n.handlers.remove h).1 }
  | .wished c => n.obey c
  | .shifted world => { n with world := world }
  | .elapsed => n.elapse
  | .begun givenUp => n.beginCall givenUp
  | .started => n.start.1
  | .reconciled desired => (n.reconcile desired).1
  | .turned a => n.turn a
  | .tasksRun => n.runTasks
  | .trimmed => n.trimSightings

/-! ## Accepted signals -/

/-- The identity of the signal that a request is, if it is one. -/
def signalOf : Request → Option MessageId
  | .custom d => if d.delivery.isOneWay then d.id else none
  | _ => none

/-- The identity of the signal that arrives with a request, however it is written. -/
def signalled? (s : Service) (r : Incoming) : Option MessageId :=
  match s.body r with
  | .error _ => none
  | .ok body =>
    match Request.decode r.fields body with
    | .error _ => none
    | .ok request => signalOf request

/-- Whether a request was answered with the status of an accepted signal. -/
def isAccepting : Ending Response → Bool
  | .returned response => response.status == 204
  | .never => false

/-- The identity of the signal that an errand to the own node delivered. -/
def deliveredBy : (x : Errand) → Ending (Except Fault x.Answer) → Option MessageId
  | .signal e _, .returned (.ok _) => some e.id
  | _, _ => none

/-- The identity of the signal that an event accepts: a request that carries it is answered with 204,
or the node takes it from itself. -/
def accepted? (n : Node ω) : Event ω → Option MessageId
  | .posted s r => if isAccepting (s.respond n r).2 then signalled? s r else none
  | .admitted s r => if isAccepting (s.consensus n r).2 then signalled? s r else none
  | .attempted bound x => deliveredBy x (n.attemptHere bound x).2
  | _ => none

/-! ## What an event does to sightings and tasks -/

/-- What an event does to the sightings and the tasks of a node, beside the identity of the signal that
it accepts. -/
inductive Impact (n n' : Node ω) : Option MessageId → Prop where
  | nothing : n'.sightings = n.sightings → (∀ i, n'.tasksOf i ≤ n.tasksOf i) → Impact n n' none
  | trimmed : n'.sightings = n.sightings.trim n.now n.sightings.retention →
      (∀ i, n'.tasksOf i ≤ n.tasksOf i) → Impact n n' none
  | repeated {id : MessageId} : n.sightings.remembers n.now id = true →
      n'.sightings = n.sightings → (∀ i, n'.tasksOf i ≤ n.tasksOf i) → Impact n n' (some id)
  | fresh {id : MessageId} : n.sightings.remembers n.now id = false →
      n'.sightings = (n.sightings.see n.now id).1 →
      (∀ i, n'.tasksOf i = n.tasksOf i + if i = id then 1 else 0) → Impact n n' (some id)

namespace Impact

variable {n n' n'' : Node ω}

theorem of_steady (h : Steady (fun _ => ()) n n') : Impact n n' none :=
  .nothing h.sightings h.tasks

theorem unaccepted (h : Steady (fun _ => ()) n n') {p : Prop} [Decidable p] :
    Impact n n' (if p then none else none) := by
  rw [ite_self]
  exact .of_steady h

theorem steady (h : Impact n n' none) (hs : Steady (fun _ => ()) n' n'') :
    Impact n n'' none := by
  cases h with
  | nothing hsee ht =>
      exact .nothing (hs.sightings.trans hsee) fun i => Nat.le_trans (hs.tasks i) (ht i)
  | trimmed hsee ht =>
      exact .trimmed (hs.sightings.trans hsee) fun i => Nat.le_trans (hs.tasks i) (ht i)

theorem of_touch {id : MemberId} {a : Option MessageId} (h : Impact (n.touch id) n' a) :
    Impact n n' a := by
  cases h with
  | nothing hsee ht => exact .nothing hsee ht
  | trimmed hsee ht => exact .trimmed hsee ht
  | repeated hr hsee ht => exact .repeated hr hsee ht
  | fresh hr hsee ht => exact .fresh hr hsee ht

theorem release {a : Option MessageId} (h : Impact n n' a) (gate : Gate) :
    Impact n (n'.release gate) a := by
  have htasks := tasksOf_release n' gate
  cases h with
  | nothing hsee ht => exact .nothing hsee fun i => Nat.le_trans (Nat.le_of_eq (htasks i)) (ht i)
  | trimmed hsee ht => exact .trimmed hsee fun i => Nat.le_trans (Nat.le_of_eq (htasks i)) (ht i)
  | repeated hr hsee ht =>
      exact .repeated hr hsee fun i => Nat.le_trans (Nat.le_of_eq (htasks i)) (ht i)
  | fresh hr hsee ht => exact .fresh hr hsee fun i => (htasks i).trans (ht i)

theorem acknowledged {a : Option MessageId} (h : Impact n n' a) (reply : Reply) :
    Impact n (n'.acknowledged reply) a := by
  unfold Node.acknowledged
  split
  · exact h.release _
  · exact h

end Impact

omit [Surroundings ω] in
theorem tasksOf_spawn (n : Node ω) (h : HandlerId) (d : Delivered) (i : MessageId) :
    (n.spawn h d).1.tasksOf i = n.tasksOf i + if d.id = some i then 1 else 0 := by
  rw [tasksOf, tasks_spawn, List.countP_append, List.countP_singleton, tasksOf]
  simp only [decide_eq_true_eq]

/-- The identity of a message that is answered as an accepted signal. -/
def acceptedIn (d : Delivered) : Ending (Except Fault Reply) → Option MessageId
  | .returned (.ok (.accepted _)) => d.id
  | _ => none

theorem acceptedIn_answer (n : Node ω) (h : HandlerId) (d d' : Delivered) :
    acceptedIn d' (n.answer h d).2 = none := by
  unfold answer
  split <;> rfl

theorem acceptSignal_impact (n : Node ω) (h : HandlerId) (d : Delivered) :
    Impact n (n.acceptSignal h d).1 (acceptedIn d (.returned (.ok (n.acceptSignal h d).2))) := by
  have haccepted := acceptSignal_accepted n h d
  generalize n.acceptSignal h d = r at haccepted ⊢
  cases haccepted with
  | repeated hid hr =>
      simp only [acceptedIn, hid]
      exact .repeated hr rfl fun _ => Nat.le_refl _
  | nameless hid =>
      simp only [acceptedIn, hid]
      refine .nothing (sightings_spawn n h d) fun i => ?_
      rw [tasksOf_spawn, hid]
      exact Nat.le_refl _
  | @fresh id m hid hr hm =>
      simp only [acceptedIn, hid]
      refine .fresh hr ?_ fun i => ?_
      · rw [sightings_spawn, hm]
      · rw [tasksOf_spawn, hid, hm]
        simp only [Option.some.injEq, eq_comm]
        rfl

theorem receiveMessage_impact (n : Node ω) (d : Delivered) :
    Impact n (n.receiveMessage d).1 (acceptedIn d (n.receiveMessage d).2) := by
  have hreceived := receiveMessage_received n d
  generalize n.receiveMessage d = r at hreceived ⊢
  cases hreceived with
  | stranger hs => exact .of_steady (.refl n)
  | misdirected hs hl => exact .of_touch (.of_steady (.refl _))
  | unsupported hs ht hf => exact .of_touch (.of_steady (.refl _))
  | @questioned id h hs ht hf hd =>
      rw [acceptedIn_answer]
      exact .of_touch (.of_steady (steady_answer kept_unit _ h d))
  | @signalled id h hs ht hf hd => exact .of_touch (acceptSignal_impact _ h d)

/-! ## Requests over HTTP -/

def responded : Ending (Except Fault Reply) → Ending Response
  | .returned (.ok reply) => .returned (.ofReply reply)
  | .returned (.error fault) => .returned (.ofFault fault)
  | .never => .never

theorem consensus_of_body {s : Service} {r : Incoming} {body : Body} (n : Node ω)
    (h : s.body r = .ok body) : s.consensus n r
      = ((n.dispatch r.fields body).1, responded (n.dispatch r.fields body).2) := by
  rw [Service.consensus, h]
  dsimp only
  split <;> rename_i heq <;> rw [heq] <;> rfl

omit [Surroundings ω] in
theorem isAccepting_ofFault (fault : Fault) :
    isAccepting (.returned (.ofFault fault)) = false := by
  cases fault <;> rfl

/-- A message is answered with 204 exactly when it is accepted as a signal. -/
theorem accepted_of_responded (n : Node ω) (d : Delivered) :
    (if isAccepting (responded (n.receiveMessage d).2) then signalOf (.custom d) else none)
      = acceptedIn d (n.receiveMessage d).2 := by
  have hreceived := receiveMessage_received n d
  generalize n.receiveMessage d = r at hreceived ⊢
  cases hreceived with
  | stranger hs => rfl
  | misdirected hs hl => rfl
  | unsupported hs ht hf => rfl
  | questioned hs ht hf hd =>
      rw [signalOf, hd, acceptedIn_answer]
      exact ite_self none
  | @signalled id h hs ht hf hd =>
      have haccepted := acceptSignal_accepted (n.touch id) h d
      have hone : d.delivery.isOneWay = true := by
        cases he : d.delivery with
        | requestReply => exact absurd he hd
        | oneWay => rfl
        | oneWayNoAck => rfl
      rw [signalOf, hone]
      generalize (n.touch id).acceptSignal h d = a at haccepted ⊢
      cases haccepted <;> rfl

theorem route_impact (n : Node ω) (request : Request) : Impact n (n.route request).1
    (if isAccepting (responded (n.route request).2) then signalOf request else none) := by
  cases request with
  | custom d =>
      have hmessage := receiveMessage_impact n d
      rw [← accepted_of_responded] at hmessage
      exact hmessage
  | requestVote sender vote =>
      exact .unaccepted (steady_receiveVote kept_unit ..)
  | appendEntries sender entries =>
      exact .unaccepted (steady_receiveOrder kept_unit ..)
  | installSnapshot sender header snapshot =>
      exact .unaccepted (steady_receiveOrder kept_unit ..)
  | resign sender =>
      exact .unaccepted (steady_receiveOrder kept_unit ..)
  | metadata sender =>
      exact .unaccepted (steady_tellMetadata ..)

theorem consensus_impact (s : Service) (n : Node ω) (r : Incoming) :
    Impact n (s.consensus n r).1
      (if isAccepting (s.consensus n r).2 then signalled? s r else none) := by
  cases hb : s.body r with
  | error fault =>
      rw [Service.consensus, hb]
      dsimp only
      rw [isAccepting_ofFault]
      exact .of_steady (.refl n)
  | ok body =>
      rw [consensus_of_body n hb, dispatch, signalled?, hb]
      dsimp only
      cases Request.decode r.fields body with
      | error fault => exact .unaccepted (.refl n)
      | ok request => exact route_impact n request

theorem respond_impact (s : Service) (n : Node ω) (r : Incoming) :
    Impact n (s.respond n r).1
      (if isAccepting (s.respond n r).2 then signalled? s r else none) := by
  rw [Service.respond]
  split
  · rw [Service.resource]
    split
    · exact .of_steady (.refl n)
    · split
      · exact .of_steady (.refl n)
      · exact consensus_impact s n r
  · exact .of_steady (.refl n)

/-- A signal is answered with a status of success only when it is accepted. -/
theorem isAccepting_responded {n : Node ω} {d : Delivered} {response : Response}
    (hd : d.delivery.isOneWay = true)
    (h : responded (n.receiveMessage d).2 = .returned response)
    (hstatus : 200 ≤ response.status ∧ response.status < 300) :
    isAccepting (.returned response) = true := by
  have hreceived := receiveMessage_received n d
  generalize n.receiveMessage d = r at hreceived h
  cases hreceived with
  | stranger hs =>
      obtain rfl := Ending.returned.inj h
      exact absurd hstatus.2 (by decide)
  | misdirected hs hl =>
      obtain rfl := Ending.returned.inj h
      exact absurd hstatus.2 (by decide)
  | unsupported hs ht hf =>
      obtain rfl := Ending.returned.inj h
      exact absurd hstatus.2 (by decide)
  | questioned hs ht hf hq =>
      rw [hq] at hd
      cases hd
  | @signalled id handler hs ht hf hq =>
      have haccepted := acceptSignal_accepted (n.touch id) handler d
      generalize (n.touch id).acceptSignal handler d = a at haccepted h
      cases haccepted <;> (obtain rfl := Ending.returned.inj h; rfl)

theorem exists_of_signalled? {s : Service} {r : Incoming} {id : MessageId}
    (h : signalled? s r = some id) : ∃ body d, s.body r = .ok body
      ∧ Request.decode r.fields body = .ok (.custom d) ∧ d.delivery.isOneWay = true := by
  rw [signalled?] at h
  split at h
  · cases h
  · rename_i body hbody
    split at h
    · cases h
    · rename_i request hdecode
      cases request with
      | custom d =>
          rw [signalOf] at h
          split at h
          · rename_i hone
            exact ⟨body, d, hbody, hdecode, hone⟩
          · cases h
      | _ => cases h

theorem isAccepting_consensus {s : Service} {n : Node ω} {r : Incoming} {id : MessageId}
    {response : Response} (hid : signalled? s r = some id)
    (h : (s.consensus n r).2 = .returned response)
    (hstatus : 200 ≤ response.status ∧ response.status < 300) :
    isAccepting (.returned response) = true := by
  obtain ⟨body, d, hbody, hdecode, hone⟩ := exists_of_signalled? hid
  rw [consensus_of_body n hbody, dispatch, hdecode] at h
  exact isAccepting_responded hone h hstatus

theorem isAccepting_respond {s : Service} {n : Node ω} {r : Incoming} {id : MessageId}
    {response : Response} (hid : signalled? s r = some id)
    (h : (s.respond n r).2 = .returned response)
    (hstatus : 200 ≤ response.status ∧ response.status < 300) :
    isAccepting (.returned response) = true := by
  rw [Service.respond] at h
  split at h
  · rw [Service.resource] at h
    split at h
    · obtain rfl := Ending.returned.inj h
      exact absurd hstatus.2 (by decide)
    · split at h
      · obtain rfl := Ending.returned.inj h
        exact absurd hstatus.2 (by decide)
      · exact isAccepting_consensus hid h hstatus
  · obtain rfl := Ending.returned.inj h
    exact absurd hstatus.2 (by decide)

/-! ## Errands to the own node -/

theorem acceptedIn_of_requestReply (n : Node ω) {d : Delivered}
    (h : d.delivery = .requestReply) : acceptedIn d (n.receiveMessage d).2 = none := by
  rw [← accepted_of_responded, signalOf, h]
  exact ite_self none

/-- An errand delivers a signal exactly when its node accepts one. -/
theorem deliveredBy_ownResult {n m : Node ω} {x : Errand} {sender : String} {reply : Reply}
    (h : n.receiveMessage (x.delivered sender) = (m, .returned (.ok reply))) (address : String) :
    deliveredBy x (.returned (ownResult address x reply))
      = acceptedIn (x.delivered sender) (.returned (.ok reply)) := by
  cases x with
  | signal e d => cases reply <;> rfl
  | request e =>
      have hnone := acceptedIn_of_requestReply n (d := (Errand.request e).delivered sender) rfl
      rw [h] at hnone
      rw [hnone]
      rfl

theorem attemptHere_impact (n : Node ω) (bound : Bound) (x : Errand) :
    Impact n (n.attemptHere bound x).1 (deliveredBy x (n.attemptHere bound x).2) := by
  cases hs : n.isStopped bound with
  | true =>
      rw [attemptHere_of_isStopped hs]
      cases x <;> exact .of_steady (.refl n)
  | false =>
      have hhanded := attemptHere_handed hs x
      have hreceive := receiveMessage_impact n (x.delivered n.registry.localAddress)
      generalize n.attemptHere bound x = out at hhanded ⊢
      obtain ⟨n', ending⟩ := out
      cases hhanded with
      | replied hr =>
          rw [deliveredBy_ownResult hr]
          rw [hr] at hreceive
          exact hreceive.acknowledged _
      | failed hr =>
          rw [hr] at hreceive
          cases x <;> exact hreceive
      | waited hr hending =>
          -- a handler that was waited for answers a question, so nothing was accepted
          rw [hr] at hreceive
          have hpause := hreceive.steady (steady_pause kept_unit _)
          rcases hending with rfl | rfl <;> cases x <;> exact hpause

/-! ## Events -/

theorem happen_impact (n : Node ω) (e : Event ω) :
    Impact n (n.happen e) (n.accepted? e) := by
  cases e with
  | posted s r => exact respond_impact s n r
  | admitted s r => exact consensus_impact s n r
  | released gate => exact .of_steady (steady_release n gate)
  | attempted bound x => exact attemptHere_impact n bound x
  | called bound id o => exact .of_steady (steady_call ..)
  | handlerAdded h => exact .of_steady (.of_eq rfl rfl rfl rfl rfl)
  | handlerRemoved h => exact .of_steady (.of_eq rfl rfl rfl rfl rfl)
  | wished c => exact .of_steady (steady_obey n c)
  | shifted world => exact .of_steady ⟨rfl, id, id, rfl, fun _ => Nat.le_refl _⟩
  | elapsed => exact .of_steady (steady_elapse kept_unit n)
  | begun givenUp => exact .nothing rfl fun _ => Nat.le_refl _
  | started => exact .of_steady ((sustained_steady kept_unit).start n)
  | reconciled desired => exact .of_steady ((sustained_steady kept_unit).reconcile n desired)
  | turned a => exact .of_steady ((sustained_steady kept_unit).turn n a)
  | tasksRun => exact .of_steady (steady_runTasks kept_unit n)
  | trimmed => exact .trimmed rfl fun _ => Nat.le_refl _

end Conclave.Node

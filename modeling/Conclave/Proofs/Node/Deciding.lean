import Conclave.Proofs.Node.Following
import Conclave.Proofs.Node.Standing
import Conclave.Proofs.Node.Sustained
import Conclave.Proofs.Node.Ways

/-!
# A leader decides about its own messages

When the look at the head of the loop finds that this node leads, the message is handed to the node
itself. Whatever it comes to then (`OwnFault`), it asks for another attempt in one case only: a
signal is refused because the node does not lead any more (`deposed_of_asksAgain`). So as long as
the engine reports the same leader, the first attempt is the last one.

The node takes its own messages because it is registered at all times (`Arises.resident`).
-/

namespace Conclave.Node

open Wire

variable {ω : Type} [Surroundings ω]

/-! ## The local member stays registered -/

/-- What a node can come to: it is built, anything happens at it, it sends messages to the leader,
and it is shut down. -/
inductive Arises : Node ω → Prop where
  | built {host : Host} {memory : Memory} {channel : Membership.Channel} {prepare : String → ω}
      {n : Node ω} : build host memory channel prepare = .ok n → Arises n
  | happened {n : Node ω} (e : Event ω) : Arises n → Arises (n.happen e)
  | asked {n : Node ω} (rounds : Nat) (bound : Bound) (m : Message) : Arises n →
      Arises (sendRequest rounds n bound m).1
  | signalled {n : Node ω} (rounds : Nat) (bound : Bound) (m : Message) (d : Delivery) :
      Arises n → Arises (sendSignal rounds n bound m d).1
  | shut {n : Node ω} : Arises n → Arises n.shutdown.1

/-- The local member is registered. -/
def Resident (n : Node ω) : Prop := n.registry.contains n.registry.localAddress = true

/-- The local address stays the same, and the local member stays registered. -/
structure Abides (n n' : Node ω) : Prop where
  localAddress : n'.registry.localAddress = n.registry.localAddress
  resident : n.Resident → n'.Resident

omit [Surroundings ω] in
theorem abides_of_registry {n n' : Node ω} (h : n'.registry = n.registry) : Abides n n' := by
  refine ⟨by rw [h], fun hres => ?_⟩
  rw [Resident, h]
  exact hres

theorem abides_perform (n : Node ω) (desired : List String) (c : Chore) :
    Abides n (n.perform desired c).1 := by
  have hlocal := (perform_leaves n desired c).2.2.localAddress
  refine ⟨hlocal, fun hres => ?_⟩
  rw [Resident, hlocal]
  exact contains_local_perform n desired c hres

theorem sustained_abides : Sustained (Abides (ω := ω)) where
  refl := fun _ => abides_of_registry rfl
  trans := fun h h' => ⟨h'.localAddress.trans h.localAddress, h'.resident ∘ h.resident⟩
  perform := abides_perform
  announce := fun _ _ => abides_of_registry rfl
  adopt := fun _ _ => ⟨rfl, id⟩
  follower := fun _ _ => abides_of_registry rfl

theorem upheld_abides : Upheld (Abides (ω := ω)) where
  refl := sustained_abides.refl
  trans := sustained_abides.trans
  turn := sustained_abides.turn
  runTasks := fun n => abides_of_registry (registry_runTasks n)
  elapse := fun n => abides_of_registry (registry_elapse n)
  dispatchHere := fun n x => abides_of_registry (registry_dispatchHere n x)
  transmit := fun _ => abides_of_registry (registry_after ..)
  learn := fun _ _ _ _ => abides_of_registry rfl
  envelop := fun _ _ => abides_of_registry rfl

theorem abides_happen (n : Node ω) (e : Event ω) : Abides n (n.happen e) := by
  cases e with
  | posted s r => exact abides_of_registry (registry_respond s n r)
  | admitted s r => exact abides_of_registry (registry_consensus s n r)
  | attempted bound x => exact upheld_abides.attemptHere n bound x
  | called bound id o => exact upheld_abides.call n bound id o
  | wished c => exact abides_of_registry (registry_obey n c)
  | elapsed => exact upheld_abides.elapse n
  | started => exact sustained_abides.start n
  | reconciled desired => exact sustained_abides.reconcile n desired
  | turned a => exact sustained_abides.turn n a
  | tasksRun => exact upheld_abides.runTasks n
  | _ => exact abides_of_registry rfl

theorem abides_shutdown (n : Node ω) : Abides n n.shutdown.1 := by
  have hclosed : Abides n { n with lifetimeOver := true }.closeAll :=
    abides_of_registry (registry_closeAll { n with lifetimeOver := true })
  have hsettled := upheld_abides.trans hclosed (upheld_abides.settle _)
  rw [shutdown]
  split
  · exact upheld_abides.refl n
  · dsimp only
    split
    · exact upheld_abides.trans hsettled (abides_of_registry rfl)
    · exact hsettled

omit [Surroundings ω] in
theorem resident_alone (world : ω) (address : String) (sightings : Sightings)
    (channel : Membership.Channel) : (alone world address sightings channel).Resident := by
  rw [Resident, alone, Registry.contains_new]
  exact beq_self_eq_true address

theorem Arises.resident {n : Node ω} (h : Arises n) : n.Resident := by
  induction h with
  | built hbuild =>
      obtain ⟨address, sightings, rfl⟩ := alone_of_build hbuild
      exact resident_alone ..
  | happened e _ ih => exact (abides_happen _ e).resident ih
  | asked rounds bound m _ ih => exact (upheld_abides.sendRequest rounds _ bound m).resident ih
  | signalled rounds bound m d _ ih =>
      exact (upheld_abides.sendSignal rounds _ bound m d).resident ih
  | shut _ ih => exact (abides_shutdown _).resident ih

/-! ## A message that a node hands to itself -/

/-- An errand that can be sent: what is no request is a signal. -/
def Errand.Sendable : Errand → Prop
  | .request _ => True
  | .signal _ d => d.isOneWay = true

/-- What a node says to a message of its own. -/
inductive OwnReply (n : Node ω) : Errand → Ending (Except Fault Reply) → Prop where
  | deposed {x : Errand} : n.isLeader = false →
      OwnReply n x (.returned (.ok (.status .serviceUnavailable)))
  | unsupported {x : Errand} : OwnReply n x (.returned (.ok (.status .notImplemented)))
  | answered {e : Envelope} (m : Message) : OwnReply n (.request e) (.returned (.ok (.message m)))
  | failed {e : Envelope} (chain : List String) :
      OwnReply n (.request e) (.returned (.error (.handler chain)))
  | stuck {e : Envelope} {h : HandlerId} :
      (Surroundings.answer n.world h n.registry.localAddress e.message).2.2 = .never →
      OwnReply n (.request e) .never
  | accepted {e : Envelope} {d : Delivery} (gate : Option Gate) :
      OwnReply n (.signal e d) (.returned (.ok (.accepted gate)))

variable {n : Node ω} {bound : Bound} {x : Errand}

theorem not_isLeader_of_not_mayTake {sender : String} (h : ¬ n.mayTake (x.delivered sender)) :
    n.isLeader = false := by
  cases hleads : n.isLeader with
  | false => rfl
  | true => exact absurd (fun _ => hleads) h

theorem ownReply_answer (e : Envelope) (id : MemberId) (h : HandlerId) :
    OwnReply n (.request e)
      ((n.touch id).answer h ((Errand.request e).delivered n.registry.localAddress)).2 := by
  rw [answer]
  split
  · exact .answered _
  · exact .failed _
  · rename_i hnever
    exact .stuck (congrArg (·.2.2) hnever)

theorem ownReply_acceptSignal (e : Envelope) (d d' : Delivery) (m : Node ω) (h : HandlerId)
    (sender : String) : OwnReply n (.signal e d)
      (.returned (.ok (m.acceptSignal h ((Errand.signal e d').delivered sender)).2)) := by
  have haccepted := acceptSignal_accepted m h ((Errand.signal e d').delivered sender)
  generalize m.acceptSignal h ((Errand.signal e d').delivered sender) = r at haccepted ⊢
  cases haccepted <;> exact .accepted _

/-- The node knows itself, so it does not turn its own message away as that of a stranger. -/
theorem receiveMessage_ownReply (hres : n.Resident) (hx : x.Sendable) :
    OwnReply n x (n.receiveMessage (x.delivered n.registry.localAddress)).2 := by
  have hreceived := receiveMessage_received n (x.delivered n.registry.localAddress)
  generalize n.receiveMessage (x.delivered n.registry.localAddress) = r at hreceived ⊢
  cases hreceived with
  | stranger hs =>
      have hnone : n.registry.get? n.registry.localAddress = none := hs
      rw [Resident, ← Registry.isSome_get?, hnone] at hres
      cases hres
  | misdirected hs hl => exact .deposed (not_isLeader_of_not_mayTake hl)
  | unsupported hs ht hf => exact .unsupported
  | questioned hs ht hf hd =>
      cases x with
      | request e => exact ownReply_answer ..
      | signal e d =>
          have hd : d = .requestReply := hd
          rw [Errand.Sendable, hd] at hx
          cases hx
  | signalled hs ht hf hd =>
      cases x with
      | request e => exact absurd rfl hd
      | signal e d => exact ownReply_acceptSignal ..

/-- What an attempt at the own node can fail with. -/
inductive OwnFault (n : Node ω) : Fault → Prop where
  | canceled : OwnFault n .canceled
  | handler (chain : List String) : OwnFault n (.handler chain)
  | unsupported :
      OwnFault n (.remoteStatus n.registry.localAddress Status.notImplemented.code)
  | deposed : n.isLeader = false →
      OwnFault n (.remoteStatus n.registry.localAddress Status.serviceUnavailable.code)

theorem ownFault_of_attemptHere (hres : n.Resident) (hx : x.Sendable) {fault : Fault}
    (h : (n.attemptHere bound x).2 = .returned (.error fault)) : n.OwnFault fault := by
  have hreply := receiveMessage_ownReply hres hx
  have hregistry := registry_receiveMessage n (x.delivered n.registry.localAddress)
  cases hs : n.isStopped bound with
  | true =>
      rw [attemptHere_of_isStopped hs] at h
      cases h
      exact .canceled
  | false =>
      have hhanded := attemptHere_handed hs x
      rw [h] at hhanded
      generalize (n.attemptHere bound x).1 = n' at hhanded
      generalize hending : Ending.returned (Except.error fault) = ending at hhanded
      cases hhanded with
      | replied hr =>
          have hresult := Ending.returned.inj hending
          rw [hr] at hreply hregistry
          rw [hregistry] at hresult
          cases hreply with
          | deposed hleads =>
              cases x <;> cases hresult <;> exact .deposed hleads
          | unsupported =>
              cases x <;> cases hresult <;> exact .unsupported
          | answered m => cases hresult
          | accepted gate => cases hresult
      | failed hr =>
          rw [hr] at hreply
          cases hending
          cases hreply with
          | failed chain => exact .handler chain
      | waited hr hwaited =>
          rcases hwaited with rfl | rfl
          · cases hending
          · cases hending
            exact .canceled

/-- An attempt at the own node goes on only while a handler does not answer a request, and nobody
gives it up. -/
theorem stuck_of_attemptHere (hres : n.Resident) (hx : x.Sendable)
    (h : (n.attemptHere bound x).2 = .never) :
    (n.attemptHere bound x).1.isStopped bound = false ∧ ∃ e handler, x = .request e
      ∧ (Surroundings.answer n.world handler n.registry.localAddress e.message).2.2 = .never := by
  have hreply := receiveMessage_ownReply hres hx
  rw [attemptHere] at h ⊢
  split at h
  · cases h
  · rename_i hgo
    rw [if_neg hgo]
    rw [dispatchHere] at h ⊢
    rcases hr : n.receiveMessage (x.delivered n.registry.localAddress) with ⟨m, ending⟩
    rw [hr] at h hreply
    cases ending with
    | returned result => cases result <;> cases h
    | never =>
        dsimp only at h ⊢
        split at h
        · cases h
        · rename_i hwaits
          rw [if_neg hwaits]
          cases hreply with
          | stuck hanswer => exact ⟨Bool.eq_false_iff.mpr hwaits, _, _, rfl, hanswer⟩

/-! ## Rounds at the own node -/

theorem ending_of_here (h : n.heading bound = .here) :
    (n.roundFrom bound x).ending = (n.elapse.attemptHere bound x).2 := by
  rw [roundFrom, h]
  rfl

theorem finish_of_here (h : n.heading bound = .here) :
    (n.roundFrom bound x).finish = (n.elapse.attemptHere bound x).1 := by
  rw [roundFrom, h]
  rfl

/-- Another attempt is asked for by signals only, and where the node does not lead any more. -/
theorem deposed_of_asksAgain (hres : n.Resident) (hx : x.Sendable) (h : n.heading bound = .here)
    (hagain : (n.roundFrom bound x).AsksAgain) :
    (∃ e d, x = .signal e d) ∧ n.elapse.isLeader = false := by
  have hstarts : n.elapse.Resident := (upheld_abides.elapse n).resident hres
  have hfault : ∀ {fault}, (n.roundFrom bound x).ending = .returned (.error fault) →
      n.elapse.OwnFault fault := by
    intro fault hending
    rw [ending_of_here h] at hending
    exact ownFault_of_attemptHere hstarts hx hending
  rcases hagain with ⟨address, reason, hunreached⟩ | ⟨address, hrefused⟩
  · cases hfault hunreached
  · have hown := hfault hrefused
    generalize hcode : x.retryStatus.code = code at hown
    cases hown with
    | unsupported => cases x <;> cases hcode
    | deposed hleads =>
        cases x with
        | request e => cases hcode
        | signal e d => exact ⟨⟨e, d, rfl⟩, hleads⟩

/-- A node that the look at the head of the loop found to lead still does when the attempt starts,
if the engine reports the same leader. -/
theorem isLeader_of_heading (h : n.heading bound = .here)
    (hsame : Surroundings.leader n.elapse.world = Surroundings.leader n.world) :
    n.elapse.isLeader = true := by
  have hheads := heading_heads n bound
  rw [h] at hheads
  cases hheads with
  | here hgo hleader hget hlocal =>
      rw [isLeader, hsame, hleader, registry_elapse]
      exact hlocal

/-- The loop does not go on once it has to stop. -/
theorem not_asksAgain_of_isStopped (h : n.isStopped bound = true) :
    ¬ (n.roundFrom bound x).AsksAgain := by
  have hending : (n.roundFrom bound x).ending = .returned (.error .canceled) := by
    rw [roundFrom, heading_of_isStopped h]
    rfl
  rintro (⟨address, reason, hunreached⟩ | ⟨address, hrefused⟩)
  · rw [hending] at hunreached
    cases hunreached
  · rw [hending] at hrefused
    cases hrefused

/-- A node that is reported to lead finds itself. -/
theorem heading_of_resident (hres : n.Resident)
    (hleader : Surroundings.leader n.world = some n.registry.localAddress)
    (hgo : n.isStopped bound = false) : n.heading bound = .here := by
  have hheads := heading_heads n bound
  generalize n.heading bound = heading at hheads ⊢
  cases hheads with
  | canceled hs =>
      rw [hgo] at hs
      cases hs
  | leaderless hs hl =>
      obtain ⟨id, hid⟩ := Option.isSome_iff_exists.mp
        ((Registry.isSome_get? n.registry n.registry.localAddress).trans hres)
      rw [leader?, hleader] at hl
      simp [hid] at hl
  | here hs ha hi hl => rfl
  | there hs ha hi hl =>
      obtain rfl := Option.some.inj (hleader.symm.trans ha)
      rw [Registry.isLocal, beq_self_eq_true] at hl
      cases hl

/-! ## Along a run -/

/-- Every round of a run starts from what the run has come to, and ends the run unless it asks for
another one. -/
theorem round_of_mem_trail {R : Node ω → Node ω → Prop} (hR : Upheld R) {rounds : Nat}
    {r : Round ω x} (hr : r ∈ trail bound x rounds n) :
    R n r.head ∧ r = r.head.roundFrom bound x
    ∧ (¬ r.AsksAgain → (∃ pre, trail bound x rounds n = pre ++ [r])
        ∧ run bound x rounds n = (r.finish, r.ending)) := by
  induction rounds generalizing n with
  | zero => cases hr
  | succ rounds ih =>
      by_cases hagain : (n.roundFrom bound x).AsksAgain
      · rw [trail_of_asksAgain hagain] at hr ⊢
        rw [run_of_asksAgain hagain]
        rcases List.mem_cons.mp hr with rfl | hlater
        · exact ⟨hR.refl n, rfl, fun hlast => absurd hagain hlast⟩
        · obtain ⟨hreached, hround, hends⟩ := ih hlater
          have hnext : R n (n.roundFrom bound x).finish.giveWay := by
            obtain ⟨fault, heq⟩ := round_of_asksAgain hagain
            have hround := hR.round n bound x
            rw [heq] at hround
            exact hR.trans hround (hR.giveWay _)
          refine ⟨hR.trans hnext hreached, hround, fun hlast => ?_⟩
          obtain ⟨⟨pre, hpre⟩, hrun⟩ := hends hlast
          exact ⟨⟨n.roundFrom bound x :: pre, by rw [hpre]; rfl⟩, hrun⟩
      · obtain ⟨hrun, htrail⟩ := run_of_not_asksAgain hagain rounds
        rw [htrail, List.mem_singleton] at hr
        subst hr
        exact ⟨hR.refl n, rfl, fun _ => ⟨⟨[], htrail⟩, hrun⟩⟩

/-- What a leader makes of its own message: attempts at the own node end the loop, unless the node
is no leader any more when a signal reaches it. -/
structure Decides (bound : Bound) (x : Errand) (n : Node ω) (rounds : Nat) : Prop where
  last : ∀ r ∈ trail bound x rounds n, r.heading = .here → ¬ r.AsksAgain →
    (∃ pre, trail bound x rounds n = pre ++ [r]) ∧ run bound x rounds n = (r.finish, r.ending)
  again : ∀ r ∈ trail bound x rounds n, r.heading = .here → r.AsksAgain →
    (∃ e d, x = .signal e d)
    ∧ Surroundings.leader r.start.world ≠ Surroundings.leader r.head.world
  faults : ∀ r ∈ trail bound x rounds n, r.heading = .here → ∀ fault,
    r.ending = .returned (.error fault) → r.start.OwnFault fault
  waits : ∀ r ∈ trail bound x rounds n, r.heading = .here → r.ending = .never →
    r.finish.isStopped bound = false ∧ ∃ e handler, x = .request e
    ∧ (Surroundings.answer r.start.world handler r.start.registry.localAddress e.message).2.2
      = .never
  /-- The node leads, as far as the engine reports, when it looks and when the attempt starts. -/
  once : Surroundings.leader n.world = some n.registry.localAddress →
    Surroundings.leader n.elapse.world = some n.registry.localAddress → 0 < rounds →
    trail bound x rounds n = [n.roundFrom bound x]
    ∧ run bound x rounds n
      = ((n.roundFrom bound x).finish, (n.roundFrom bound x).ending)
    ∧ (n.isStopped bound = false → (n.roundFrom bound x).heading = .here)

theorem decides_of_resident (hres : n.Resident) (hx : x.Sendable) (rounds : Nat) :
    Decides bound x n rounds where
  last := fun r hr _ => (round_of_mem_trail upheld_abides hr).2.2
  again := by
    intro r hr hhere hagain
    obtain ⟨habides, hround, -⟩ := round_of_mem_trail upheld_abides hr
    rw [hround] at hhere hagain ⊢
    obtain ⟨hsignal, hleads⟩ := deposed_of_asksAgain (habides.resident hres) hx hhere hagain
    refine ⟨hsignal, fun hsame => ?_⟩
    have hleader := isLeader_of_heading hhere hsame
    rw [hleads] at hleader
    cases hleader
  faults := by
    intro r hr hhere fault hending
    obtain ⟨habides, hround, -⟩ := round_of_mem_trail upheld_abides hr
    rw [hround] at hhere hending ⊢
    rw [ending_of_here hhere] at hending
    have hstarts := (upheld_abides.trans habides (upheld_abides.elapse r.head)).resident hres
    exact ownFault_of_attemptHere hstarts hx hending
  waits := by
    intro r hr hhere hending
    obtain ⟨habides, hround, -⟩ := round_of_mem_trail upheld_abides hr
    rw [hround] at hhere hending ⊢
    rw [ending_of_here hhere] at hending
    rw [finish_of_here hhere]
    have hstarts := (upheld_abides.trans habides (upheld_abides.elapse r.head)).resident hres
    exact stuck_of_attemptHere hstarts hx hending
  once := by
    intro hlook hstart hrounds
    obtain ⟨k, rfl⟩ := Nat.exists_eq_succ_of_ne_zero (Nat.ne_of_gt hrounds)
    have hend : ¬ (n.roundFrom bound x).AsksAgain := by
      cases hs : n.isStopped bound with
      | true => exact not_asksAgain_of_isStopped hs
      | false =>
          intro hagain
          have hhere := heading_of_resident hres hlook hs
          have hleader := isLeader_of_heading hhere (hstart.trans hlook.symm)
          rw [(deposed_of_asksAgain hres hx hhere hagain).2] at hleader
          cases hleader
    obtain ⟨hrun, htrail⟩ := run_of_not_asksAgain hend k
    exact ⟨htrail, hrun, heading_of_resident hres hlook⟩

/-! ## Messages of a leader -/

/-- Whatever has become of a node, the message that it sends to the leader is decided at the first
attempt that is made at the node itself. Only a signal may be tried again, after the engine has
changed the leader between the look and the attempt. While the engine reports the node itself, there
is one attempt. -/
theorem leader_decides_own_messages {n : Node ω} (hn : Arises n) (bound : Bound) {m : Message}
    (hm : m.check = .ok ()) (rounds : Nat) : ∃ e k, n.envelop m = (e, k) ∧ e.message = m
    ∧ sendRequest rounds n bound m = run bound (.request e) rounds k
    ∧ Decides bound (.request e) k rounds
    ∧ (∀ r ∈ trail bound (.request e) rounds k, r.heading = .here → ¬ r.AsksAgain)
    ∧ ∀ d : Delivery, d.isOneWay = true →
      sendSignal rounds n bound m d = run bound (.signal e d) rounds k
      ∧ Decides bound (.signal e d) k rounds := by
  have hres : (n.envelop m).2.Resident := (upheld_abides.envelop n m).resident hn.resident
  have hdecides : ∀ x : Errand, x.Sendable → Decides bound x (n.envelop m).2 rounds :=
    fun x hx => decides_of_resident hres hx rounds
  have hrequest := hdecides (.request (n.envelop m).1) trivial
  refine ⟨(n.envelop m).1, (n.envelop m).2, rfl, rfl, ?_, hrequest, fun r hr hhere hagain => ?_,
    fun d hd => ⟨?_, hdecides (.signal (n.envelop m).1 d) hd⟩⟩
  · rw [sendRequest, hm]
  · obtain ⟨⟨e, d, hsignal⟩, -⟩ := hrequest.again r hr hhere hagain
    cases hsignal
  · simp only [sendSignal, hd, hm, Bool.not_true, Bool.false_eq_true]
    exact if_neg not_false

/-- A node that leads, and answers questions. -/
def chair : Node Rehearsal.World :=
  let engine := { Rehearsal.Engine.quiet with leader := some "a:1" }
  let world := { Rehearsal.World.start engine .scripted [] with
    handlers := [⟨"chair", ["lock"], [], false, none, none⟩] }
  { alone world "a:1" ⟨10, 10, []⟩ (.new { (default : Membership) with members := ["a:1"] }) with
    handlers := Handlers.empty.add 0 }

theorem arises_chair : Arises chair := by
  have hbuild : build ⟨[], some "a:1", 1⟩ ⟨10, 10⟩
      (.new { (default : Membership) with members := ["a:1"] })
      (fun _ => { Rehearsal.World.start { Rehearsal.Engine.quiet with leader := some "a:1" }
        .scripted [] with handlers := [⟨"chair", ["lock"], [], false, none, none⟩] })
      = .ok { chair with handlers := .empty } := rfl
  exact .happened (.handlerAdded 0) (.built hbuild)

/-- It answers its own question at once. -/
theorem chair_decides :
    Arises chair ∧ question.check = .ok ()
    ∧ (sendRequest 3 chair .caller question).2 = .returned (.ok question)
    ∧ ∃ e k, chair.envelop question = (e, k) ∧ Decides .caller (.request e) k 3
      ∧ trail .caller (.request e) 3 k = [k.roundFrom .caller (.request e)] := by
  have hdefect : question.defect? = none := by decide
  have hcheck : question.check = .ok () := by rw [Message.check, hdefect]
  obtain ⟨e, k, he, -, -, hdecides, -⟩ :=
    leader_decides_own_messages arises_chair .caller hcheck 3
  refine ⟨arises_chair, hcheck, rfl, e, k, he, hdecides, ?_⟩
  obtain ⟨rfl, rfl⟩ := Prod.mk.inj he
  exact (hdecides.once rfl rfl (by decide)).1

end Conclave.Node

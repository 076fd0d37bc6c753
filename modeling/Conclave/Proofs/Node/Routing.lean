import Conclave.Proofs.Node.History
import Conclave.Proofs.Node.Recorded
import Conclave.Rehearsal.World

/-!
# Requests for the consensus engine

Every request that is neither metadata nor an application message asks one thing of the engine
(`question?`), and `route` looks at nothing but whether its sender is registered
(`route_of_question?`). A member's request is handed on as it was decoded, and the term is read once
the engine has answered (`consult_eq`); a stranger's request leaves the node as it is.

What a node knows of the liveness of a member is its pulse (`pulse?`). The engine may reach back
into the node while it answers, and may even close members, but it takes no pulse
(`samePulses_after`). So contact with the sender is all that a request shows of the members.
-/

namespace Conclave.Node

open Wire

variable {ω : Type}

/-! ## Pulses -/

/-- Whether a member answers, and when it was last heard of. -/
def Member.pulse (m : Member) : Liveness × Option Time := (m.liveness, m.lastContact)

def pulse? (n : Node ω) (id : MemberId) : Option (Liveness × Option Time) :=
  (n.member? id).map Member.pulse

/-- Two states of a node know the same of the liveness of every member. -/
def SamePulses (n n' : Node ω) : Prop := ∀ id, n'.pulse? id = n.pulse? id

/-- Two states of a node know the same of the liveness of every member but one, which has been in
contact in between. -/
structure Contacted (n n' : Node ω) (id : MemberId) (now : Time) : Prop where
  pulse : n'.pulse? id = (n.pulse? id).map fun p => (p.1, some now)
  others : ∀ other, other ≠ id → n'.pulse? other = n.pulse? other

theorem SamePulses.trans {n₁ n₂ n₃ : Node ω} (h : SamePulses n₁ n₂) (h' : SamePulses n₂ n₃) :
    SamePulses n₁ n₃ :=
  fun id => (h' id).trans (h id)

theorem Contacted.samePulses {n₁ n₂ n₃ : Node ω} {id : MemberId} {now : Time}
    (h : Contacted n₁ n₂ id now) (h' : SamePulses n₂ n₃) : Contacted n₁ n₃ id now where
  pulse := (h' id).trans h.pulse
  others := fun other hne => (h' other).trans (h.others other hne)

theorem member?_updateMember (n : Node ω) (id : MemberId) (f : Member → Member)
    (other : MemberId) : (n.updateMember id f).member? other
      = (n.member? other).map fun m => if id = other then f m else m :=
  List.getElem?_modify ..

theorem samePulses_close (n : Node ω) (id : MemberId) :
    SamePulses n (n.updateMember id Member.close) := by
  intro other
  rw [pulse?, member?_updateMember, Option.map_map, pulse?]
  refine congrFun (congrArg Option.map (funext fun m => ?_)) _
  rw [Function.comp_apply]
  split <;> rfl

theorem samePulses_obey (n : Node ω) (c : Control) : SamePulses n (n.obey c) := by
  cases c with
  | closeMember address =>
      rw [obey, closeMember]
      split
      · exact samePulses_close n _
      · exact fun _ => rfl
  | _ => exact fun _ => rfl

/-- Whatever the surroundings ask of a node, they take no pulse. -/
theorem samePulses_after (n : Node ω) (world : ω) (controls : List Control) :
    SamePulses n (n.after world controls) := by
  have h : ∀ (cs : List Control) (m : Node ω), SamePulses m (cs.foldl obey m) := by
    intro cs
    induction cs with
    | nil => exact fun _ _ => rfl
    | cons c r ih => exact fun m => (samePulses_obey m c).trans (ih (m.obey c))
  exact h controls { n with world := world }

variable [Surroundings ω]

theorem contacted_touch (n : Node ω) (id : MemberId) : Contacted n (n.touch id) id n.now where
  pulse := by
    rw [pulse?, touch, member?_updateMember, Option.map_map, pulse?, Option.map_map]
    refine congrFun (congrArg Option.map (funext fun m => ?_)) _
    rw [Function.comp_apply, if_pos rfl]
    rfl
  others := by
    intro other hne
    rw [pulse?, touch, member?_updateMember, Option.map_map, pulse?]
    refine congrFun (congrArg Option.map (funext fun m => ?_)) _
    rw [Function.comp_apply, if_neg hne.symm]

/-! ## What is asked of the engine -/

/-- The member that a request comes from and the call to the engine that it asks for. -/
def question? : Request → Option (String × ConsensusCall)
  | .requestVote sender vote => some (sender, .vote vote)
  | .appendEntries sender entries => some (sender, .entries entries)
  | .installSnapshot sender header snapshot => some (sender, .snapshot header snapshot)
  | .resign sender => some (sender, .resign)
  | .metadata _ | .custom _ => none

/-- What a stranger is told: a candidate learns the term, and all else is refused. -/
def Reply.toStranger (term : UInt64) : ConsensusCall → Reply
  | .vote _ => .raft ⟨term, false⟩
  | _ => .status .notFound

/-- What a member is told: the answer of the engine beside a term, or why there is none. -/
def Reply.ofAnswer (term : UInt64) : Except (List String) Bool → Except Fault Reply
  | .ok value => .ok (.raft ⟨term, value⟩)
  | .error chain => .error (.consensus chain)

/-- A consultation is contact with the sender and one call to the engine. -/
theorem consult_eq (n : Node ω) (id : MemberId) (sender : String) (call : ConsensusCall) :
    n.consult id sender call =
      let out := Surroundings.receive n.world sender call
      ((n.touch id).after out.1 out.2.1, Reply.ofAnswer (Surroundings.term out.1) out.2.2) := by
  rw [consult]
  dsimp only
  rw [world_touch]
  rcases Surroundings.receive n.world sender call with ⟨world, controls, answer⟩
  cases answer with
  | ok value => simp only [world_after, Reply.ofAnswer]
  | error chain => rfl

/-- What comes of a question to the engine. -/
def ask (n : Node ω) (sender : String) (call : ConsensusCall) :
    Node ω × Ending (Except Fault Reply) :=
  match n.registry.get? sender with
  | none => (n, .returned (.ok (.toStranger (Surroundings.term n.world) call)))
  | some id => ((n.consult id sender call).1, .returned (n.consult id sender call).2)

theorem receiveVote_eq_ask (n : Node ω) (sender : String) (vote : VoteRequest) :
    ((n.receiveVote sender vote).1, .returned (n.receiveVote sender vote).2)
      = n.ask sender (.vote vote) := by
  rw [receiveVote, ask]
  cases n.registry.get? sender <;> rfl

theorem receiveOrder_eq_ask (n : Node ω) (sender : String) {call : ConsensusCall}
    (h : ∀ vote, call ≠ .vote vote) :
    ((n.receiveOrder sender call).1, .returned (n.receiveOrder sender call).2)
      = n.ask sender call := by
  rw [receiveOrder, ask]
  cases n.registry.get? sender with
  | none =>
      cases call with
      | vote vote => exact absurd rfl (h vote)
      | _ => rfl
  | some id => rfl

/-- A question to the engine is decided by its sender alone. -/
theorem route_of_question? (n : Node ω) {request : Request} {sender : String}
    {call : ConsensusCall} (h : question? request = some (sender, call)) :
    n.route request = n.ask sender call := by
  cases request with
  | requestVote sender' vote =>
      obtain ⟨rfl, rfl⟩ := Prod.mk.inj (Option.some.inj h)
      exact receiveVote_eq_ask n sender' vote
  | appendEntries sender' entries =>
      obtain ⟨rfl, rfl⟩ := Prod.mk.inj (Option.some.inj h)
      exact receiveOrder_eq_ask n sender' fun _ => ConsensusCall.noConfusion
  | installSnapshot sender' header snapshot =>
      obtain ⟨rfl, rfl⟩ := Prod.mk.inj (Option.some.inj h)
      exact receiveOrder_eq_ask n sender' fun _ => ConsensusCall.noConfusion
  | resign sender' =>
      obtain ⟨rfl, rfl⟩ := Prod.mk.inj (Option.some.inj h)
      exact receiveOrder_eq_ask n sender' fun _ => ConsensusCall.noConfusion
  | metadata sender' => cases h
  | custom d => cases h

/-- Between two states of a node the engine was asked once and nothing else was, and the node had
contact with the member that asked. -/
structure Consulted (n n' : Node (Recorded ω)) (id : MemberId) (sender : String)
    (call : ConsensusCall) : Prop where
  asked : n'.world.asked = n.world.asked ++ [.consulted sender call]
  contacted : Contacted n n' id n.now

theorem consulted_consult (n : Node (Recorded ω)) (id : MemberId) (sender : String)
    (call : ConsensusCall) : Consulted n (n.consult id sender call).1 id sender call where
  asked := by
    rw [consult_eq]
    exact congrArg Recorded.asked (world_after ..)
  contacted := by
    rw [consult_eq]
    exact (contacted_touch n id).samePulses (samePulses_after _ _ _)

/-! ## Metadata -/

/-- Metadata is told to everybody; to ask for it is contact. -/
theorem tellMetadata_eq (n : Node ω) (sender : Option String) :
    n.tellMetadata sender
      = ((sender.bind n.registry.get?).elim n n.touch, .metadata n.registry.metadata) := by
  rw [tellMetadata]
  cases sender.bind n.registry.get? <;> rfl

/-! ## The contract -/

/-- The response at an endpoint where a request arrives that was decoded. -/
def Answers (n : Node ω) (f : Fields) (body : Body) (status : Nat) : Prop :=
  ∀ (s : Http.Service) (r : Http.Incoming), s.body r = .ok body → r.fields = f →
    ∃ response, s.consensus n r = ((n.dispatch f body).1, .returned response)
      ∧ response.status = status

theorem answers_of_reply {n n' : Node ω} {f : Fields} {body : Body} {reply : Reply}
    (h : n.dispatch f body = (n', .returned (.ok reply))) :
    Answers n f body (Http.Response.ofReply reply).status := by
  rintro s r hbody rfl
  refine ⟨.ofReply reply, ?_, rfl⟩
  rw [consensus_of_body n hbody, h]
  rfl

theorem answers_of_fault {n n' : Node ω} {f : Fields} {body : Body} {fault : Fault}
    (h : n.dispatch f body = (n', .returned (.error fault))) :
    Answers n f body (Http.Response.ofFault fault).status := by
  rintro s r hbody rfl
  refine ⟨.ofFault fault, ?_, rfl⟩
  rw [consensus_of_body n hbody, h]
  rfl

/-- What a request asks of the engine is asked once, as it was decoded, on behalf of a registered
sender, and not at all on behalf of a stranger. Metadata is told to everybody. -/
theorem engine_asked_for_members (n : Node (Recorded ω)) (f : Fields) (body : Body)
    (request : Request) (hdecode : Request.decode f body = .ok request) :
    (∀ sender call, question? request = some (sender, call) →
      (n.registry.get? sender = none →
        n.dispatch f body = (n, .returned (.ok (.toStranger (Surroundings.term n.world) call)))
        ∧ Answers n f body (Reply.toStranger (Surroundings.term n.world) call).toStatus.code)
      ∧ ∀ id, n.registry.get? sender = some id →
        Consulted n (n.dispatch f body).1 id sender call
        ∧ (∀ value, (Surroundings.receive n.world sender call).2.2 = .ok value →
          (n.dispatch f body).2 = .returned
            (.ok (.raft ⟨Surroundings.term (n.dispatch f body).1.world, value⟩))
          ∧ Answers n f body 200)
        ∧ ∀ chain, (Surroundings.receive n.world sender call).2.2 = .error chain →
          (n.dispatch f body).2 = .returned (.error (.consensus chain)) ∧ Answers n f body 500)
    ∧ ∀ sender, request = .metadata sender →
        (n.dispatch f body).2 = .returned (.ok (.metadata n.registry.metadata))
        ∧ (n.dispatch f body).1.world = n.world
        ∧ (∀ id, sender.bind n.registry.get? = some id →
          Contacted n (n.dispatch f body).1 id n.now)
        ∧ (sender.bind n.registry.get? = none → (n.dispatch f body).1 = n) := by
  have hdispatch : n.dispatch f body = n.route request := by rw [dispatch, hdecode]
  constructor
  · intro sender call hquestion
    have hroute := hdispatch.trans (route_of_question? n hquestion)
    constructor
    · intro hstranger
      rw [ask, hstranger] at hroute
      have hanswers := answers_of_reply hroute
      refine ⟨hroute, ?_⟩
      cases call <;> exact hanswers
    · intro id hmember
      simp only [ask, hmember, consult_eq] at hroute
      have hterm : Surroundings.term (n.dispatch f body).1.world
          = Surroundings.term (Surroundings.receive n.world sender call).1 := by
        rw [hroute, world_after]
      refine ⟨?_, fun value hvalue => ?_, fun chain hchain => ?_⟩
      · have hconsulted := consulted_consult n id sender call
        rw [consult_eq] at hconsulted
        rw [hroute]
        exact hconsulted
      · rw [hvalue] at hroute
        rw [hterm]
        exact ⟨congrArg Prod.snd hroute, answers_of_reply hroute⟩
      · rw [hchain] at hroute
        exact ⟨congrArg Prod.snd hroute, answers_of_fault hroute⟩
  · rintro sender rfl
    rw [hdispatch, route, tellMetadata_eq]
    refine ⟨rfl, ?_, fun id hid => ?_, fun hnone => ?_⟩
    · cases sender.bind n.registry.get? <;> rfl
    · rw [hid]
      exact contacted_touch n id
    · rw [hnone]
      rfl

/-- A node at `a:1` with `b:1` as the other member, and an engine that moves on by three terms with
every request. -/
def moving : Node (Recorded Rehearsal.World) :=
  ((alone ⟨.start { Rehearsal.Engine.quiet with term := 7, bump := 3 } .scripted [], []⟩ "a:1"
    ⟨10, 10, []⟩ (.new default)).reconcile { (default : Membership) with members := ["b:1"] }).1

/-- A snapshot that breaks off in the middle of a character. -/
def offered : Body := .ofBytes [0xe2, 0x82]

def offer : Fields :=
  .ofList [("X-Raft-Message-Type", " installsnapshot "), (Field.sender, "b:1"), (Field.term, "8"),
    (Field.snapshotIndex, "99")]

/-- The engine is given the snapshot of `b:1` as it is, and its answer is told beside the term that
it has afterwards. -/
theorem offer_taken :
    Consulted moving (moving.dispatch offer offered).1 1 "b:1" (.snapshot ⟨8, 99, 0⟩ offered)
    ∧ (moving.dispatch offer offered).2 = .returned (.ok (.raft ⟨10, true⟩)) := by
  have hdecode : Request.decode offer offered
      = .ok (.installSnapshot "b:1" ⟨8, 99, 0⟩ offered) := by rfl
  obtain ⟨hquestions, -⟩ := engine_asked_for_members moving offer offered _ hdecode
  obtain ⟨hconsulted, hanswered, -⟩ := (hquestions "b:1" _ rfl).2 1 rfl
  exact ⟨hconsulted, (hanswered true rfl).1⟩

end Conclave.Node

import Conclave.Proofs.Node.Routing
import Conclave.Proofs.Node.Sustained

/-!
# What a node knows of a member

What a node knows of the liveness of a member (`Member.pulse`) comes from its encounters with it:
calls to the member that have ended, and requests that came from it. `encounters` reads off what an
event has to do with a member, and all else that happens at a node leaves the pulse alone
(`KeepsPulses`). So at every moment the latest encounter that shows something decides
(`pulse_of_history`).
-/

namespace Conclave.Node

open Wire
open Http (Service Incoming)

variable {ω : Type}

/-! ## Encounters -/

/-- An encounter with a member: a call to it that has ended, or contact without a call. -/
inductive Encounter where
  | called (o : Outbound) (result : Except Fault o.Answer) (time : Time)
  | touched (time : Time)

/-- What an encounter shows of the liveness of a member, if anything. An answer of whatever status
shows that the member is there. -/
def Encounter.liveness? : Encounter → Option Liveness
  | called _ (.ok _) _ => some .available
  | called _ (.error (.remoteStatus ..)) _ => some .available
  | called _ (.error (.unreachable ..)) _ => some .unavailable
  | _ => none

/-- When a member was heard of in an encounter, if it was. -/
def Encounter.contact? : Encounter → Option Time
  | called _ (.ok _) time => some time
  | called _ (.error (.remoteStatus ..)) time => some time
  | touched time => some time
  | _ => none

theorem Encounter.liveness?_ne_unknown (x : Encounter) : x.liveness? ≠ some .unknown := by
  unfold liveness?
  split <;> exact fun h => by cases h

/-- What is known of a member after an encounter. -/
def sense (p : Liveness × Option Time) (x : Encounter) : Liveness × Option Time :=
  (x.liveness?.getD p.1, x.contact?.or p.2)

/-- The latest encounter that shows something decides. -/
theorem foldl_sense (xs : List Encounter) (p : Liveness × Option Time) :
    xs.foldl sense p = ((xs.filterMap Encounter.liveness?).getLast?.getD p.1,
      (xs.filterMap Encounter.contact?).getLast?.or p.2) := by
  induction xs generalizing p with
  | nil => rfl
  | cons x xs ih =>
      rw [List.foldl_cons, ih, sense, List.filterMap_cons, List.filterMap_cons]
      refine Prod.ext ?_ ?_
      · cases x.liveness? with
        | none => rfl
        | some l =>
            dsimp only
            rw [List.getLast?_cons]
            rfl
      · cases x.contact? with
        | none => rfl
        | some t =>
            dsimp only
            rw [List.getLast?_cons]
            cases (xs.filterMap Encounter.contact?).getLast? <;> rfl

theorem liveness_eq_unknown_iff {xs : List Encounter} :
    (xs.filterMap Encounter.liveness?).getLast?.getD .unknown = .unknown
      ↔ ∀ x ∈ xs, x.liveness? = none := by
  rw [← List.filterMap_eq_nil_iff]
  constructor
  · intro h
    rcases List.eq_nil_or_concat (xs.filterMap Encounter.liveness?) with hnil | ⟨init, last, hlast⟩
    · exact hnil
    · rw [hlast, List.concat_eq_append, List.getLast?_concat] at h
      obtain rfl : last = .unknown := h
      have hmem : .unknown ∈ xs.filterMap Encounter.liveness? := by
        rw [hlast, List.concat_eq_append]
        exact List.mem_append_right init (List.mem_singleton_self _)
      obtain ⟨x, -, hx⟩ := List.mem_filterMap.mp hmem
      exact absurd hx x.liveness?_ne_unknown
  · intro h
    rw [h]
    rfl

/-- From one state of a node to another, there have been these encounters with a member. -/
def Senses (id : MemberId) (xs : List Encounter) (n n' : Node ω) : Prop :=
  ∀ p, n.pulse? id = some p → n'.pulse? id = some (xs.foldl sense p)

/-- There have been no encounters with any member. -/
def KeepsPulses (n n' : Node ω) : Prop := ∀ id, Senses id [] n n'

theorem Senses.trans {id : MemberId} {xs ys : List Encounter} {n n' n'' : Node ω}
    (h : Senses id xs n n') (h' : Senses id ys n' n'') : Senses id (xs ++ ys) n n'' := by
  intro p hp
  rw [List.foldl_append]
  exact h' _ (h p hp)

theorem SamePulses.keeps {n n' : Node ω} (h : SamePulses n n') : KeepsPulses n n' :=
  fun id _ hp => (h id).trans hp

theorem KeepsPulses.trans {n n' n'' : Node ω} (h : KeepsPulses n n') (h' : KeepsPulses n' n'') :
    KeepsPulses n n'' :=
  fun id => (h id).trans (h' id)

theorem Senses.keeps {id : MemberId} {xs : List Encounter} {n n' n'' : Node ω}
    (h : Senses id xs n n') (h' : KeepsPulses n' n'') : Senses id xs n n'' := by
  have hboth := h.trans (h' id)
  rw [List.append_nil] at hboth
  exact hboth

theorem KeepsPulses.senses {id : MemberId} {xs : List Encounter} {n n' n'' : Node ω}
    (h : KeepsPulses n n') (h' : Senses id xs n' n'') : Senses id xs n n'' :=
  (h id).trans h'

theorem keepsPulses_of_members {n n' : Node ω} (h : n'.members = n.members) :
    KeepsPulses n n' := by
  intro id p hp
  rw [pulse?, member?, h]
  exact hp

/-- What a member learns and is touched by is an encounter with it, and with no other one. -/
theorem senses_updateMember {f : Member → Member} {x : Encounter}
    (h : ∀ m : Member, (f m).pulse = sense m.pulse x) (n : Node ω) (target id : MemberId) :
    Senses id (if target = id then [x] else []) n (n.updateMember target f) := by
  intro p hp
  rw [pulse?, Option.map_eq_some_iff] at hp
  obtain ⟨m, hm, rfl⟩ := hp
  rw [pulse?, member?_updateMember, hm]
  split
  · exact congrArg some (h m)
  · rfl

theorem pulse_learn (m : Member) (o : Outbound) (result : Except Fault o.Answer) (now : Time) :
    (m.learn now result).pulse = sense m.pulse (.called o result now) := by
  cases result with
  | ok a => rfl
  | error fault => cases fault <;> rfl

theorem pulse_learn_error (m : Member) (o : Outbound) (fault : Fault) (now : Time) :
    (m.learn now (Except.error fault : Except Fault Unit)).pulse
      = sense m.pulse (.called o (.error fault) now) := by
  cases fault <;> rfl

theorem keepsPulses_after (n : Node ω) (world : ω) (controls : List Control) :
    KeepsPulses n (n.after world controls) := (samePulses_after n world controls).keeps

variable [Surroundings ω]

/-! ## What goes on without encounters -/

theorem keepsPulses_perform (n : Node ω) (desired : List String) (c : Chore) :
    KeepsPulses n (n.perform desired c).1 := by
  cases c with
  | discharge address =>
      rw [perform, discharge]
      split
      · exact keepsPulses_of_members rfl
      · split
        · exact keepsPulses_of_members rfl
        · exact (samePulses_close { n with registry := n.registry.remove address } _).keeps
  | enlist address =>
      rw [perform, enlist, makeMember]
      split
      · exact keepsPulses_of_members rfl
      · cases Surroundings.accept n.world address with
        | error fault => exact keepsPulses_of_members rfl
        | ok _ =>
            -- members are made at the end of the list
            intro id p hp
            rw [pulse?, Option.map_eq_some_iff] at hp
            obtain ⟨m, hm, rfl⟩ := hp
            obtain ⟨hlt, -⟩ := List.getElem?_eq_some_iff.mp hm
            have hold : (n.members ++ [Member.new address])[id]? = n.members[id]? :=
              List.getElem?_append_left hlt
            exact congrArg (Option.map Member.pulse) (hold.trans hm)

theorem sustained_keepsPulses : Sustained (KeepsPulses (ω := ω)) where
  refl := fun _ => keepsPulses_of_members rfl
  trans := KeepsPulses.trans
  perform := keepsPulses_perform
  announce := fun _ _ => keepsPulses_of_members rfl
  adopt := fun _ _ => keepsPulses_of_members rfl
  follower := fun _ _ => keepsPulses_of_members rfl

theorem keepsPulses_runTask (n : Node ω) (t : Task) : KeepsPulses n (n.runTask t) := by
  rw [runTask]
  dsimp only
  split
  · exact keepsPulses_after n _ _
  · exact (keepsPulses_after n _ _).trans (keepsPulses_of_members rfl)

theorem keepsPulses_runTasks (n : Node ω) : KeepsPulses n n.runTasks := by
  have hothers : ∀ others, KeepsPulses n { n with tasks := others } :=
    fun _ => keepsPulses_of_members rfl
  rw [runTasks]
  exact (hothers _).trans (sustained_foldl sustained_keepsPulses.refl KeepsPulses.trans
    keepsPulses_runTask _ _)

theorem keepsPulses_elapse (n : Node ω) : KeepsPulses n n.elapse := keepsPulses_after n _ _

theorem keepsPulses_pause (n : Node ω) : KeepsPulses n n.pause := by
  have hturned := (sustained_keepsPulses.turn n none).trans (keepsPulses_runTasks _)
  exact (hturned.trans (sustained_keepsPulses.turn _ none)).trans (keepsPulses_elapse _)

/-! ## Calls -/

/-- The encounter that a call to a member is, once it has ended. -/
def callEncounters (n : Node ω) (bound : Bound) (target : MemberId) (o : Outbound) :
    List Encounter :=
  match n.call bound target o with
  | (n', .returned result) => [.called o result n'.now]
  | (_, .never) => []

theorem senses_call (n : Node ω) (bound : Bound) (target id : MemberId) (o : Outbound) :
    Senses id (if target = id then n.callEncounters bound target o else []) n
      (n.call bound target o).1 := by
  have hcalled := call_called n bound target o
  rw [callEncounters]
  generalize n.call bound target o = out at hcalled ⊢
  cases hcalled with
  | absent hm =>
      dsimp only
      rw [ite_self]
      exact sustained_keepsPulses.refl n id
  | interrupted hm hi =>
      exact senses_updateMember (fun m => pulse_learn_error m o _ n.now) n target id
  | answered hm hi ht =>
      exact (keepsPulses_after n _ _).senses
        (senses_updateMember (fun m => pulse_learn m o _ _) _ target id)
  | abandoned hm hi ht hp =>
      exact ((keepsPulses_after n _ _).trans (keepsPulses_pause _)).senses
        (senses_updateMember (fun m => pulse_learn_error m o _ _) _ target id)
  | pending hm hi ht hp =>
      dsimp only
      rw [ite_self]
      exact ((keepsPulses_after n _ _).trans (keepsPulses_pause _)) id

/-! ## Requests -/

/-- Contact with the sender of a request, if it is the member. -/
def contacts (n : Node ω) (sender : Option String) (id : MemberId) : List Encounter :=
  if sender.bind n.registry.get? = some id then [.touched n.now] else []

theorem senses_touch (n : Node ω) (target id : MemberId) :
    Senses id (if target = id then [.touched n.now] else []) n (n.touch target) :=
  senses_updateMember (fun _ => rfl) n target id

theorem senses_of_contact {n n' : Node ω} (sender : Option String) {target : MemberId}
    (hs : sender.bind n.registry.get? = some target) (h : KeepsPulses (n.touch target) n')
    (id : MemberId) : Senses id (n.contacts sender id) n n' := by
  rw [contacts, hs]
  simp only [Option.some.injEq]
  exact (senses_touch n target id).keeps h

theorem senses_of_stranger {n n' : Node ω} (sender : Option String)
    (hs : sender.bind n.registry.get? = none) (h : KeepsPulses n n') (id : MemberId) :
    Senses id (n.contacts sender id) n n' := by
  rw [contacts, hs, if_neg nofun]
  exact h id

omit [Surroundings ω] in
theorem keepsPulses_spawn (n : Node ω) (h : HandlerId) (d : Delivered) :
    KeepsPulses n (n.spawn h d).1 := by
  rw [spawn]
  split <;> exact keepsPulses_of_members rfl

theorem keepsPulses_acceptSignal (n : Node ω) (h : HandlerId) (d : Delivered) :
    KeepsPulses n (n.acceptSignal h d).1 := by
  have haccepted := acceptSignal_accepted n h d
  generalize n.acceptSignal h d = r at haccepted ⊢
  cases haccepted with
  | repeated hid hr => exact sustained_keepsPulses.refl n
  | nameless hid => exact keepsPulses_spawn n h d
  | @fresh i m hid hr hm =>
      have hseen : KeepsPulses n m := keepsPulses_of_members (by rw [hm])
      exact hseen.trans (keepsPulses_spawn m h d)

theorem keepsPulses_answer (n : Node ω) (h : HandlerId) (d : Delivered) :
    KeepsPulses n (n.answer h d).1 := by
  rw [answer]
  split <;> exact keepsPulses_after n _ _

theorem senses_receiveMessage (n : Node ω) (d : Delivered) (id : MemberId) :
    Senses id (n.contacts (some d.sender) id) n (n.receiveMessage d).1 := by
  have hreceived := receiveMessage_received n d
  generalize n.receiveMessage d = r at hreceived ⊢
  cases hreceived with
  | stranger hs => exact senses_of_stranger (some d.sender) hs (sustained_keepsPulses.refl n) id
  | misdirected hs hl =>
      exact senses_of_contact (some d.sender) hs (sustained_keepsPulses.refl _) id
  | unsupported hs ht hf =>
      exact senses_of_contact (some d.sender) hs (sustained_keepsPulses.refl _) id
  | questioned hs ht hf hd =>
      exact senses_of_contact (some d.sender) hs (keepsPulses_answer _ _ d) id
  | signalled hs ht hf hd =>
      exact senses_of_contact (some d.sender) hs (keepsPulses_acceptSignal _ _ d) id

/-- Who sent a request. -/
def senderOf : Request → Option String
  | .metadata sender => sender
  | .custom d => some d.sender
  | request => (question? request).map Prod.fst

theorem senses_ask (n : Node ω) (sender : String) (call : ConsensusCall) (id : MemberId) :
    Senses id (n.contacts (some sender) id) n (n.ask sender call).1 := by
  rw [ask]
  split
  · rename_i hs
    exact senses_of_stranger (some sender) hs (sustained_keepsPulses.refl n) id
  · rename_i target hs
    dsimp only
    rw [consult_eq]
    exact senses_of_contact (some sender) hs (keepsPulses_after _ _ _) id

theorem senses_route (n : Node ω) (request : Request) (id : MemberId) :
    Senses id (n.contacts (senderOf request) id) n (n.route request).1 := by
  have hquestion : ∀ {sender call}, question? request = some (sender, call) →
      senderOf request = some sender → Senses id (n.contacts (senderOf request) id) n
        (n.route request).1 := by
    intro sender call hq hs
    rw [route_of_question? n hq, hs]
    exact senses_ask n sender call id
  cases request with
  | custom d => exact senses_receiveMessage n d id
  | metadata sender =>
      rw [route, tellMetadata_eq]
      cases hs : sender.bind n.registry.get? with
      | none => exact senses_of_stranger _ hs (sustained_keepsPulses.refl n) id
      | some target => exact senses_of_contact _ hs (sustained_keepsPulses.refl _) id
  | _ => exact hquestion rfl rfl

/-- Who sent a request that arrives over HTTP, if it can be read. -/
def sentBy (s : Service) (r : Incoming) : Option String :=
  match s.body r with
  | .error _ => none
  | .ok body =>
    match Request.decode r.fields body with
    | .error _ => none
    | .ok request => senderOf request

theorem senses_consensus (s : Service) (n : Node ω) (r : Incoming) (id : MemberId) :
    Senses id (n.contacts (sentBy s r) id) n (s.consensus n r).1 := by
  cases hb : s.body r with
  | error fault =>
      have hsent : sentBy s r = none := by rw [sentBy, hb]
      rw [Service.consensus, hb, hsent]
      exact senses_of_stranger none rfl (sustained_keepsPulses.refl n) id
  | ok body =>
      rw [consensus_of_body n hb, dispatch]
      cases hd : Request.decode r.fields body with
      | error fault =>
          have hsent : sentBy s r = none := by
            rw [sentBy, hb]
            dsimp only
            rw [hd]
          rw [hsent]
          exact senses_of_stranger none rfl (sustained_keepsPulses.refl n) id
      | ok request =>
          have hsent : sentBy s r = senderOf request := by
            rw [sentBy, hb]
            dsimp only
            rw [hd]
          rw [hsent]
          exact senses_route n request id

/-- Whether a request passes the filter and is for the endpoint. -/
def admitsPost (n : Node ω) (s : Service) (r : Incoming) : Bool :=
  Http.admitsPeer n.registry.networks r.peer && s.route.admits r.route && r.method == "POST"

theorem senses_respond (s : Service) (n : Node ω) (r : Incoming) (id : MemberId) :
    Senses id (if n.admitsPost s r then n.contacts (sentBy s r) id else []) n
      (s.respond n r).1 := by
  rw [Service.respond, Service.resource, admitsPost]
  cases Http.admitsPeer n.registry.networks r.peer with
  | false => exact sustained_keepsPulses.refl n id
  | true =>
      cases s.route.admits r.route with
      | false => exact sustained_keepsPulses.refl n id
      | true =>
          by_cases hpost : r.method = "POST"
          · simp only [hpost, beq_self_eq_true, Bool.and_self, Bool.not_true, Bool.false_eq_true,
              if_true, if_false, ne_eq, not_true_eq_false]
            exact senses_consensus s n r id
          · have hpost' : (r.method == "POST") = false := beq_false_of_ne hpost
            simp only [hpost, hpost', Bool.and_false, Bool.not_true, Bool.false_eq_true, if_true,
              if_false, ne_eq, not_false_eq_true]
            exact sustained_keepsPulses.refl n id

/-! ## Attempts at the own node -/

theorem senses_attemptHere (n : Node ω) (bound : Bound) (x : Errand) (id : MemberId) :
    Senses id (if n.isStopped bound then [] else n.contacts (some n.registry.localAddress) id) n
      (n.attemptHere bound x).1 := by
  cases hs : n.isStopped bound with
  | true =>
      rw [attemptHere_of_isStopped hs]
      exact sustained_keepsPulses.refl n id
  | false =>
      have hreceived := senses_receiveMessage n (x.delivered n.registry.localAddress) id
      have hhanded := attemptHere_handed hs x
      generalize n.attemptHere bound x = out at hhanded ⊢
      obtain ⟨n', ending⟩ := out
      cases hhanded with
      | replied hr =>
          rw [hr] at hreceived
          refine hreceived.keeps ?_
          dsimp only
          split <;> exact keepsPulses_of_members rfl
      | failed hr =>
          rw [hr] at hreceived
          exact hreceived
      | waited hr hending =>
          rw [hr] at hreceived
          exact hreceived.keeps (keepsPulses_pause _)

/-! ## Histories -/

/-- The encounters with a member in an event. -/
def encounters (n : Node ω) (id : MemberId) : Event ω → List Encounter
  | .posted s r => if n.admitsPost s r then n.contacts (sentBy s r) id else []
  | .admitted s r => n.contacts (sentBy s r) id
  | .attempted bound _ =>
    if n.isStopped bound then [] else n.contacts (some n.registry.localAddress) id
  | .called bound target o => if target = id then n.callEncounters bound target o else []
  | _ => []

/-- An event is its encounters with a member, as far as the pulse of the member goes. -/
theorem senses_happen (n : Node ω) (e : Event ω) (id : MemberId) :
    Senses id (n.encounters id e) n (n.happen e) := by
  cases e with
  | posted s r => exact senses_respond s n r id
  | admitted s r => exact senses_consensus s n r id
  | attempted bound x => exact senses_attemptHere n bound x id
  | called bound target o => exact senses_call n bound target id o
  | wished c => exact (samePulses_obey n c).keeps id
  | elapsed => exact keepsPulses_elapse n id
  | started => exact sustained_keepsPulses.start n id
  | reconciled desired => exact sustained_keepsPulses.reconcile n desired id
  | turned a => exact sustained_keepsPulses.turn n a id
  | tasksRun => exact keepsPulses_runTasks n id
  | _ => exact keepsPulses_of_members rfl id

/-- Something that happens at a node, or contact with a member apart from that. -/
inductive Incident (ω : Type) where
  | happened (e : Event ω)
  | touched (id : MemberId)

def undergo (n : Node ω) : Incident ω → Node ω
  | .happened e => n.happen e
  | .touched id => n.touch id

/-- The encounters with a member in a history. -/
def past (id : MemberId) : Node ω → List (Incident ω) → List Encounter
  | _, [] => []
  | n, .happened e :: is => n.encounters id e ++ past id (n.happen e) is
  | n, .touched target :: is =>
    (if target = id then [.touched n.now] else []) ++ past id (n.touch target) is

theorem senses_past (n : Node ω) (is : List (Incident ω)) (id : MemberId) :
    Senses id (past id n is) n (is.foldl undergo n) := by
  induction is generalizing n with
  | nil => exact sustained_keepsPulses.refl n id
  | cons i is ih =>
      cases i with
      | happened e => exact (senses_happen n e id).trans (ih _)
      | touched target => exact (senses_touch n target id).trans (ih _)

/-! ## Interruptions -/

variable {n : Node ω} {bound : Bound} {id : MemberId} {m : Member}

omit [Surroundings ω] in
theorem updateMember_self {f : Member → Member} (h : ∀ m, f m = m) : n.updateMember id f = n := by
  have hf : f = fun m => m := funext h
  have hmembers : n.members.modify id f = n.members := by
    rw [hf]
    exact List.modify_id ..
  rw [updateMember, hmembers]

theorem interrupted_canceled : n.interrupted id .canceled = n := updateMember_self fun _ => rfl

omit [Surroundings ω] in
/-- The caller is looked at first. -/
theorem interruption_of_givenUp {address : String} (h : n.isGivenUp bound = true) :
    n.interruption bound id address = some .canceled := if_pos h

omit [Surroundings ω] in
theorem interruption_of_closed {address : String} (h : n.isGivenUp bound = false)
    (hclosed : n.isClosed id = true) :
    n.interruption bound id address = some (.unreachable address .removed) := by
  rw [interruption, if_neg (ne_true_of_eq_false h), if_pos hclosed]

omit [Surroundings ω] in
theorem interruption_of_open {address : String} (h : n.isGivenUp bound = false)
    (hopen : n.isClosed id = false) : n.interruption bound id address = none := by
  rw [interruption, if_neg (ne_true_of_eq_false h), if_neg (ne_true_of_eq_false hopen)]

theorem call_of_interruption {o : Outbound} {fault : Fault} (hm : n.member? id = some m)
    (hi : n.interruption bound id m.address = some fault) :
    n.call bound id o = (n.interrupted id fault, .returned (.error fault)) := by
  rw [call, hm]
  dsimp only
  rw [hi]

/-- A call that is on its way ends only with an interruption, if it is not answered. -/
theorem call_of_never {o : Outbound} {world : ω} {controls : List Control} {fault : Fault}
    (hm : n.member? id = some m) (hi : n.interruption bound id m.address = none)
    (ht : Surroundings.transmit n.world m.address o = (world, controls, .never))
    (hp : (n.after world controls).pause.interruption bound id m.address = some fault) :
    n.call bound id o
      = ((n.after world controls).pause.interrupted id fault, .returned (.error fault)) := by
  rw [call, hm]
  dsimp only
  rw [hi]
  dsimp only
  rw [ht]
  dsimp only
  rw [hp]

/-- How a call to a member goes that is not answered, or not even sent. -/
structure Bounded (n : Node ω) (bound : Bound) (id : MemberId) (m : Member) (o : Outbound) :
    Prop where
  givenUp : n.isGivenUp bound = true → n.call bound id o = (n, .returned (.error .canceled))
  closed : n.isGivenUp bound = false → n.isClosed id = true →
    (n.call bound id o).2 = .returned (.error (.unreachable m.address .removed))
    ∧ (n.call bound id o).1.world = n.world
  /-- The caller is looked at first also while the call is on its way. -/
  abandoned : n.isGivenUp bound = false → n.isClosed id = false → ∀ world controls,
    Surroundings.transmit n.world m.address o = (world, controls, .never) →
    let waited := (n.after world controls).pause
    (waited.isGivenUp bound = true →
      n.call bound id o = (waited, .returned (.error .canceled)))
    ∧ (waited.isGivenUp bound = false → waited.isClosed id = true →
      (n.call bound id o).2 = .returned (.error (.unreachable m.address .removed)))

theorem bounded_of_member? (hm : n.member? id = some m) (bound : Bound) (o : Outbound) :
    Bounded n bound id m o where
  givenUp := by
    intro hgiven
    rw [call_of_interruption hm (interruption_of_givenUp hgiven), interrupted_canceled]
  closed := by
    intro hlive hclosed
    rw [call_of_interruption hm (interruption_of_closed hlive hclosed)]
    exact ⟨rfl, rfl⟩
  abandoned := by
    intro hlive hopen world controls ht
    have hstarts := @interruption_of_open _ _ _ _ m.address hlive hopen
    refine ⟨fun hgiven => ?_, fun hwaits hclosed => ?_⟩
    · rw [call_of_never hm hstarts ht (interruption_of_givenUp hgiven), interrupted_canceled]
    · rw [call_of_never hm hstarts ht (interruption_of_closed hwaits hclosed)]

/-! ## What is known of a member -/

/-- Whatever happens at a node, what it knows of a member that it has made is what the latest
encounter showed: nothing before the first call that shows something, and nothing unknown from then
on. A call that its caller has given up is canceled, and another one to a member that is closed does
not reach it; neither is sent. -/
theorem pulse_of_history {n : Node (Recorded ω)} {m₀ : Member} (hm : n.member? id = some m₀)
    (hnew : m₀.pulse = (.unknown, none)) (is : List (Incident (Recorded ω))) :
    ∃ m, (is.foldl undergo n).member? id = some m
    ∧ m.liveness = ((past id n is).filterMap Encounter.liveness?).getLast?.getD .unknown
    ∧ (m.liveness = .unknown ↔ ∀ x ∈ past id n is, x.liveness? = none)
    ∧ m.lastContact = ((past id n is).filterMap Encounter.contact?).getLast?
    ∧ ∀ bound o, Bounded (is.foldl undergo n) bound id m o := by
  have hsenses := senses_past n is id (.unknown, none) (by rw [pulse?, hm, ← hnew]; rfl)
  rw [pulse?, Option.map_eq_some_iff, foldl_sense] at hsenses
  obtain ⟨m, hlast, hpulse⟩ := hsenses
  obtain ⟨hliveness, hcontact⟩ := Prod.mk.inj hpulse
  refine ⟨m, hlast, hliveness, ?_, ?_, bounded_of_member? hlast⟩
  · rw [hliveness]
    exact liveness_eq_unknown_iff
  · rw [hcontact, Option.or_none]

/-- A member that answers, goes down, and answers something that cannot be read. The clock of its
node stands at some later time than zero. -/
def attendant : Node (Recorded Rehearsal.World) :=
  let gone := { Rehearsal.Outcome.plain with fault := some (.unreachable "b:1" .noConnection) }
  let garbled := { Rehearsal.Outcome.plain with fault := some (.undecodable "no number") }
  let world := { (Rehearsal.World.start .quiet .scripted []).expect "b:1"
    [Rehearsal.Outcome.plain, gone, garbled] with clock := 1500 }
  ((alone ⟨world, []⟩ "a:1" ⟨10, 10, []⟩ (.new default)).enlist "b:1").1

/-- Four calls, of which the last one is given up at once. -/
def enquiries : List (Incident (Recorded Rehearsal.World)) :=
  [.happened (.called .caller 1 .metadata), .happened (.called .caller 1 .resign), .touched 1,
    .happened (.called .caller 1 .resign), .happened (.begun true),
    .happened (.called .caller 1 .resign)]

theorem attendant_unavailable :
    attendant.member? 1 = some (.new "b:1") ∧ (Member.new "b:1").pulse = (.unknown, none)
    ∧ ∃ m, (enquiries.foldl undergo attendant).member? 1 = some m
      ∧ m.liveness = .unavailable ∧ m.lastContact = some 1500
      ∧ (enquiries.foldl undergo attendant).call .caller 1 .resign
        = (enquiries.foldl undergo attendant, .returned (.error .canceled)) := by
  have hmember : attendant.member? 1 = some (.new "b:1") := rfl
  obtain ⟨m, hm, hliveness, -, hcontact, hbounded⟩ :=
    pulse_of_history hmember rfl enquiries
  refine ⟨hmember, rfl, m, hm, hliveness.trans rfl, hcontact.trans rfl, ?_⟩
  exact (hbounded .caller .resign).givenUp rfl

end Conclave.Node

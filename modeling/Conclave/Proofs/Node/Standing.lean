import Conclave.Proofs.Node.History
import Conclave.Proofs.Node.Passes

/-!
# The networks in force

Only a pass changes a registry. Requests that arrive, tasks that run and everything that happens
around a node leave it as it is (the `registry_...` lemmas). While errands and calls wait, the loop
of the node may make passes. A pass replaces the networks when it begins, and nothing else touches
them: `adoptions` lists the memberships with which passes begin in an event, and at every moment of
a history the networks of the last of them are in force (`networks_history`).
-/

namespace Conclave.Node

open Wire
open Registry (SameTerms)

variable {ω : Type}

/-! ## Small steps -/

theorem registry_foldl {α : Type} {f : Node ω → α → Node ω}
    (h : ∀ n x, (f n x).registry = n.registry) (l : List α) (n : Node ω) :
    (l.foldl f n).registry = n.registry :=
  sustained_foldl (R := fun n n' => n'.registry = n.registry) (fun _ => rfl)
    (fun hn hn' => hn'.trans hn) h l n

theorem registry_obey (n : Node ω) (c : Control) : (n.obey c).registry = n.registry := by
  cases c with
  | closeMember address =>
      rw [obey, closeMember]
      split <;> rfl
  | _ => rfl

@[simp] theorem registry_after (n : Node ω) (world : ω) (controls : List Control) :
    (n.after world controls).registry = n.registry :=
  registry_foldl registry_obey controls { n with world := world }

@[simp] theorem registry_spawn (n : Node ω) (h : HandlerId) (d : Delivered) :
    (n.spawn h d).1.registry = n.registry := by
  unfold spawn
  split <;> rfl

theorem registry_closeAll (n : Node ω) : n.closeAll.registry = n.registry := by
  have hclose : ∀ (m : Node ω) (e : String × MemberId),
      (m.updateMember e.2 Member.close).registry = m.registry := fun _ _ => rfl
  exact registry_foldl hclose n.registry.handles.entries n

variable [Surroundings ω]

@[simp] theorem registry_elapse (n : Node ω) : n.elapse.registry = n.registry :=
  registry_after ..

/-! ## Requests -/

@[simp] theorem registry_acceptSignal (n : Node ω) (h : HandlerId) (d : Delivered) :
    (n.acceptSignal h d).1.registry = n.registry := by
  have haccepted := acceptSignal_accepted n h d
  generalize n.acceptSignal h d = r at haccepted ⊢
  cases haccepted with
  | repeated hid hr => rfl
  | nameless hid => exact registry_spawn ..
  | fresh hid hr hm => rw [registry_spawn, hm]

@[simp] theorem registry_answer (n : Node ω) (h : HandlerId) (d : Delivered) :
    (n.answer h d).1.registry = n.registry := by
  unfold answer
  split <;> exact registry_after ..

@[simp] theorem registry_receiveMessage (n : Node ω) (d : Delivered) :
    (n.receiveMessage d).1.registry = n.registry := by
  have hreceived := receiveMessage_received n d
  generalize n.receiveMessage d = r at hreceived ⊢
  cases hreceived with
  | stranger hs => rfl
  | misdirected hs hl => rfl
  | unsupported hs ht hf => rfl
  | questioned hs ht hf hd => exact registry_answer ..
  | signalled hs ht hf hd => exact registry_acceptSignal ..

@[simp] theorem registry_consult (n : Node ω) (id : MemberId) (sender : String)
    (call : ConsensusCall) : (n.consult id sender call).1.registry = n.registry := by
  unfold consult
  dsimp only
  split <;> exact registry_after ..

@[simp] theorem registry_route (n : Node ω) (request : Request) :
    (n.route request).1.registry = n.registry := by
  have horder : ∀ sender call, (n.receiveOrder sender call).1.registry = n.registry := by
    intro sender call
    unfold receiveOrder
    split
    · rfl
    · exact registry_consult ..
  cases request with
  | requestVote sender vote =>
      change (n.receiveVote sender vote).1.registry = n.registry
      unfold receiveVote
      split
      · rfl
      · exact registry_consult ..
  | appendEntries sender entries => exact horder ..
  | installSnapshot sender header snapshot => exact horder ..
  | resign sender => exact horder ..
  | metadata sender =>
      rw [route, tellMetadata]
      dsimp only
      split <;> rfl
  | custom d => exact registry_receiveMessage ..

@[simp] theorem registry_consensus (s : Http.Service) (n : Node ω) (r : Http.Incoming) :
    (s.consensus n r).1.registry = n.registry := by
  cases hb : s.body r with
  | error fault =>
      rw [Http.Service.consensus, hb]
  | ok body =>
      rw [consensus_of_body n hb, dispatch]
      split
      · rfl
      · exact registry_route ..

@[simp] theorem registry_respond (s : Http.Service) (n : Node ω) (r : Http.Incoming) :
    (s.respond n r).1.registry = n.registry := by
  rw [Http.Service.respond, Http.Service.resource]
  split
  · split
    · rfl
    · split
      · rfl
      · exact registry_consensus ..
  · rfl

/-! ## Tasks -/

@[simp] theorem registry_runTask (n : Node ω) (t : Task) :
    (n.runTask t).registry = n.registry := by
  unfold runTask
  dsimp only
  split <;> exact registry_after ..

@[simp] theorem registry_runTasks (n : Node ω) : n.runTasks.registry = n.registry :=
  registry_foldl registry_runTask ..

/-! ## Passes -/

theorem terms_advance (desired : List String) (cs : List Chore) (a : Allowance) (n : Node ω) :
    SameTerms n.registry (advance desired a cs n).1.registry := by
  induction cs generalizing a n with
  | nil => exact .refl _
  | cons c r ih =>
      have hfirst := (perform_leaves n desired c).2.2
      rw [advance]
      generalize n.perform desired c = out at hfirst ⊢
      obtain ⟨m, effect⟩ := out
      cases effect with
      | nothing => exact hfirst.trans (ih a m)
      | failed address => exact hfirst.trans (ih a m)
      | changed e =>
          dsimp only
          cases a.spend? 1 with
          | none => exact hfirst
          | some a => exact hfirst.trans (ih a (m.announce e))

omit [Surroundings ω] in
theorem registry_follows (s : Membership.Subscription) (x : Node ω × Allowance × Option Pass) :
    (follows s x).1.registry = x.1.registry := by
  obtain ⟨n, a, p⟩ := x
  cases p <;> rfl

/-- The networks in force after passes for some memberships, one after the other. -/
def inForce (l : Ip.AccessList) (ds : List Membership) : Ip.AccessList :=
  ds.foldl (fun _ d => d.networks) l

theorem inForce_append (l : Ip.AccessList) (ds es : List Membership) :
    inForce l (ds ++ es) = inForce (inForce l ds) es := List.foldl_append

/-- The membership with which the loop begins a pass when it goes on. -/
def news? (n : Node ω) (a : Allowance) : Option Membership :=
  match n.follower with
  | .following s =>
    if n.lifetimeOver then none
    else
      match n.channel.next s with
      | (_, .changed desired) => (a.spend? 2).map fun _ => desired
      | _ => none
  | _ => none

theorem networks_follow (n : Node ω) (a : Allowance) :
    (n.follow a).1.registry.networks = inForce n.registry.networks (n.news? a).toList := by
  rw [follow, news?]
  cases n.follower with
  | idle s => rfl
  | ended => rfl
  | reconciling s p =>
      dsimp only
      rw [registry_follows, resume]
      cases a.spend? 1 with
      | none => rfl
      | some a => exact (terms_advance p.desired p.chores a (n.announce p.unannounced)).networks
  | following s =>
      dsimp only
      split
      · rfl
      · rcases n.channel.next s with ⟨s', change⟩
        cases change with
        | pending => rfl
        | closed => rfl
        | changed d =>
            dsimp only
            cases a.spend? 2 with
            | none => rfl
            | some a =>
                dsimp only
                rw [registry_follows]
                exact (terms_advance d.members (n.chores d.members) a (n.adopt d)).networks

/-- The memberships with which passes begin in a turn. -/
def adoptedInTurn (n : Node ω) (a : Allowance) : List Membership :=
  let first := n.follow a
  let second := first.1.follow first.2
  (n.news? a).toList ++ (first.1.news? first.2).toList ++ (second.1.news? second.2).toList

theorem networks_turn (n : Node ω) (a : Allowance) :
    (n.turn a).registry.networks = inForce n.registry.networks (n.adoptedInTurn a) := by
  rw [adoptedInTurn, inForce_append, inForce_append, ← networks_follow, ← networks_follow,
    ← networks_follow]
  rfl

/-- The same while a caller waits for what does not come. -/
def adoptedInPause (n : Node ω) : List Membership :=
  n.adoptedInTurn none ++ (n.turn none).runTasks.adoptedInTurn none

theorem networks_pause (n : Node ω) :
    n.pause.registry.networks = inForce n.registry.networks n.adoptedInPause := by
  rw [pause, registry_elapse, settle, networks_turn, registry_runTasks, networks_turn,
    adoptedInPause, inForce_append]

theorem registry_dispatchHere (n : Node ω) (x : Errand) :
    (n.dispatchHere x).1.registry = n.registry := by
  have hreceived := registry_receiveMessage n (x.delivered n.registry.localAddress)
  rw [dispatchHere]
  split <;> rename_i heq <;> rw [heq] at hreceived
  · dsimp only
    split <;> exact hreceived
  · exact hreceived
  · exact hreceived

/-! ## Events -/

/-- The memberships with which passes begin in an event. -/
def adoptions (n : Node ω) : Event ω → List Membership
  | .attempted bound x =>
    if n.isGivenUp bound || n.lifetimeOver then []
    else
      match n.dispatchHere x with
      | (_, .returned _) => []
      | (n, .never) => n.adoptedInPause
  | .called bound id o =>
    match n.member? id with
    | none => []
    | some m =>
      match n.interruption bound id m.address with
      | some _ => []
      | none =>
        match Surroundings.transmit n.world m.address o with
        | (_, _, .returned _) => []
        | (world, controls, .never) => (n.after world controls).adoptedInPause
  | .started =>
    match n.follower with
    | .idle _ => [n.channel.current]
    | _ => []
  | .reconciled desired => [desired]
  | .turned a => n.adoptedInTurn a
  | _ => []

theorem networks_attempted (n : Node ω) (bound : Bound) (x : Errand) :
    (n.attemptHere bound x).1.registry.networks
      = inForce n.registry.networks (n.adoptions (.attempted bound x)) := by
  have hhere := registry_dispatchHere n x
  rw [attemptHere, adoptions]
  split
  · rfl
  · generalize n.dispatchHere x = out at hhere ⊢
    obtain ⟨m, ending⟩ := out
    cases ending with
    | returned result => exact congrArg Registry.networks hhere
    | never =>
        dsimp only
        rw [← show m.registry = n.registry from hhere, ← networks_pause]
        split <;> rfl

theorem networks_called (n : Node ω) (bound : Bound) (id : MemberId) (o : Outbound) :
    (n.call bound id o).1.registry.networks
      = inForce n.registry.networks (n.adoptions (.called bound id o)) := by
  rw [call, adoptions]
  cases n.member? id with
  | none => rfl
  | some m =>
      dsimp only
      cases n.interruption bound id m.address with
      | some fault => rfl
      | none =>
          dsimp only
          rcases Surroundings.transmit n.world m.address o with ⟨world, controls, ending⟩
          cases ending with
          | returned result =>
              exact congrArg Registry.networks (registry_after n world controls)
          | never =>
              dsimp only
              rw [← registry_after n world controls, ← networks_pause]
              split <;> rfl

/-- After an event the networks of the last pass that began in it are in force. -/
theorem networks_happen (n : Node ω) (e : Event ω) :
    (n.happen e).registry.networks = inForce n.registry.networks (n.adoptions e) := by
  cases e with
  | posted s r => exact congrArg Registry.networks (registry_respond s n r)
  | admitted s r => exact congrArg Registry.networks (registry_consensus s n r)
  | wished c => exact congrArg Registry.networks (registry_obey n c)
  | elapsed => exact congrArg Registry.networks (registry_elapse n)
  | tasksRun => exact congrArg Registry.networks (registry_runTasks n)
  | attempted bound x => exact networks_attempted n bound x
  | called bound id o => exact networks_called n bound id o
  | turned a => exact networks_turn n a
  | reconciled desired => exact (reconcile_terms n desired).networks
  | started =>
      rw [happen, start, adoptions]
      cases n.follower with
      | idle s => exact (reconcile_terms n n.channel.current).networks
      | _ => rfl
  | _ => rfl

/-- The memberships with which passes begin along a history. -/
def adoptedAlong : Node ω → List (Event ω) → List Membership
  | _, [] => []
  | n, e :: es => n.adoptions e ++ (n.happen e).adoptedAlong es

/-- At every moment of a history the networks of the last pass are in force. -/
theorem networks_history (n : Node ω) (es : List (Event ω)) :
    (es.foldl happen n).registry.networks = inForce n.registry.networks (n.adoptedAlong es) := by
  induction es generalizing n with
  | nil => rfl
  | cons e r ih => rw [List.foldl_cons, ih, networks_happen, adoptedAlong, inForce_append]

end Conclave.Node

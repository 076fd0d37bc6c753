import Conclave.Proofs.Node.History
import Conclave.Proofs.Node.Interleaving
import Conclave.Proofs.Node.Routing
import Conclave.Proofs.Node.Ways

/-!
# What goes on beside passes

As long as nobody around a node wishes that a member be closed (`Considerate`), all that the node does
beside its passes is no business of theirs: requests that arrive, tasks that run, the time that
elapses and the end of the lifetime leave the registry as it is, make no member and close none
(`Beside`, with a lemma for each function). What does make passes, the loop and whoever waits for
it, goes the way of `Next` (`Onward`). Then everything that can happen at a node does
(`onward_happen`), and so do a shutdown and a message to the leader; a node's whole life is such a way
(`Lived.onward`).
-/

namespace Conclave.Node

open Wire

variable {ω : Type}

/-! ## The frame -/

namespace Apart

variable {n n' n'' : Node ω}

theorem refl (n : Node ω) : Apart n n := ⟨rfl, rfl, id, fun _ h => h, fun _ h => .inl h⟩

theorem trans (h : Apart n n') (h' : Apart n' n'') : Apart n n'' where
  registry := h'.registry.trans h.registry
  addresses := h'.addresses.trans h.addresses
  lifetime := fun hn => h'.lifetime (h.lifetime hn)
  closed := fun id hn => h'.closed id (h.closed id hn)
  opened := by
    intro id hid
    rcases h'.opened id hid with hid | hover
    · exact (h.opened id hid).imp_right h'.lifetime
    · exact .inr hover

/-- Members keep their addresses. -/
theorem member? (h : Apart n n') (id : MemberId) :
    (n'.member? id).map Member.address = (n.member? id).map Member.address := by
  rw [Node.member?, Node.member?, ← List.getElem?_map, ← List.getElem?_map, h.addresses]

/-- A member that is closed with the lifetime stays so. -/
theorem isClosed_eq (h : Apart n n') {id : MemberId} (hid : n.isClosed id = n.lifetimeOver) :
    n'.isClosed id = n'.lifetimeOver := by
  rw [Bool.eq_iff_iff]
  constructor
  · intro hclosed
    rcases h.opened id hclosed with hclosed | hover
    · exact h.lifetime (hid.symm.trans hclosed)
    · exact hover
  · intro hover
    rw [isClosed, hover, Bool.true_or]

end Apart

/-- What the loop of a node has no part in either. -/
structure Beside (n n' : Node ω) : Prop extends Apart n n' where
  follower : n'.follower = n.follower

/-- What a node that closes a member or makes one changes. -/
def Member.standing (m : Member) : String × Bool := (m.address, m.canceled)

namespace Beside

variable {n n' n'' : Node ω}

theorem refl (n : Node ω) : Beside n n := ⟨.refl n, rfl⟩

theorem trans (h : Beside n n') (h' : Beside n' n'') : Beside n n'' :=
  ⟨h.toApart.trans h'.toApart, h'.follower.trans h.follower⟩

theorem of_standing (hregistry : n'.registry = n.registry)
    (hmembers : n'.members.map Member.standing = n.members.map Member.standing)
    (hlifetime : n.lifetimeOver = true → n'.lifetimeOver = true)
    (hfollower : n'.follower = n.follower) : Beside n n' := by
  have haddresses : ∀ l : List Member,
      l.map Member.address = (l.map Member.standing).map Prod.fst :=
    fun l => by rw [List.map_map]; rfl
  have hcanceled : ∀ (m : Node ω) (id : MemberId), (m.member? id).any (·.canceled)
      = ((m.members.map Member.standing)[id]?).any Prod.snd := by
    intro m id
    rw [List.getElem?_map, Node.member?]
    cases m.members[id]? <;> rfl
  refine ⟨⟨hregistry, ?_, hlifetime, fun id hid => ?_, fun id hid => ?_⟩, hfollower⟩
  · rw [haddresses, haddresses, hmembers]
  · rw [isClosed, hcanceled, Bool.or_eq_true] at hid ⊢
    rw [hmembers]
    exact hid.imp_left hlifetime
  · rw [isClosed, hcanceled, Bool.or_eq_true, hmembers] at hid
    rw [isClosed, hcanceled, Bool.or_eq_true]
    exact hid.symm.imp .inr fun h => h

theorem of_eq (hregistry : n'.registry = n.registry) (hmembers : n'.members = n.members)
    (hlifetime : n'.lifetimeOver = n.lifetimeOver) (hfollower : n'.follower = n.follower) :
    Beside n n' :=
  of_standing hregistry (by rw [hmembers]) (fun h => hlifetime.trans h) hfollower

end Beside

/-! ## Small steps -/

/-- Wishes none of which is that a member be closed. -/
def Sparing (controls : List Control) : Prop := ∀ a, .closeMember a ∉ controls

theorem beside_updateMember (n : Node ω) (id : MemberId) {f : Member → Member}
    (hf : ∀ m, (f m).standing = m.standing) : Beside n (n.updateMember id f) := by
  refine .of_standing rfl (List.ext_getElem? fun i => ?_) (fun h => h) rfl
  have hmember := member?_updateMember n id f i
  rw [Node.member?, Node.member?] at hmember
  rw [List.getElem?_map, List.getElem?_map, hmember, Option.map_map]
  refine congrFun (congrArg Option.map (funext fun m => ?_)) _
  rw [Function.comp_apply]
  split
  · exact hf m
  · rfl

theorem beside_learn {α : Type} (n : Node ω) (id : MemberId) (now : Time)
    (result : Except Fault α) :
    Beside n (n.updateMember id fun m => m.learn now result) := by
  refine beside_updateMember n id fun m => ?_
  cases result with
  | ok _ => rfl
  | error fault => cases fault <;> rfl

/-- Once the lifetime is over, there is nothing left that closing a member would change. -/
theorem beside_close {n : Node ω} (h : n.lifetimeOver = true) (id : MemberId) :
    Beside n (n.updateMember id Member.close) where
  registry := rfl
  addresses := by
    refine List.ext_getElem? fun i => ?_
    have hmember := member?_updateMember n id Member.close i
    rw [Node.member?, Node.member?] at hmember
    rw [List.getElem?_map, List.getElem?_map, hmember, Option.map_map]
    refine congrFun (congrArg Option.map (funext fun m => ?_)) _
    rw [Function.comp_apply]
    split <;> rfl
  lifetime := fun h => h
  closed := fun id _ => by rw [isClosed, show (n.updateMember _ _).lifetimeOver = true from h]; rfl
  opened := fun _ _ => .inr h
  follower := rfl

theorem beside_foldl {α : Type} {f : Node ω → α → Node ω} {l : List α}
    (h : ∀ n, ∀ x ∈ l, Beside n (f n x)) (n : Node ω) : Beside n (l.foldl f n) := by
  induction l generalizing n with
  | nil => exact .refl n
  | cons x r ih =>
      exact (h n x (List.mem_cons_self ..)).trans
        (ih (fun m y hy => h m y (List.mem_cons_of_mem x hy)) (f n x))

theorem beside_obey (n : Node ω) {c : Control} (h : ∀ a, c ≠ .closeMember a) :
    Beside n (n.obey c) := by
  cases c with
  | endLifetime => exact .of_standing rfl rfl (fun _ => rfl) rfl
  | giveUp => exact .of_eq rfl rfl rfl rfl
  | publish desired => exact .of_eq rfl rfl rfl rfl
  | closeMember address => exact absurd rfl (h address)

theorem beside_after (n : Node ω) (world : ω) {controls : List Control} (h : Sparing controls) :
    Beside n (n.after world controls) := by
  have hworld : Beside n { n with world := world } := .of_eq rfl rfl rfl rfl
  exact hworld.trans (beside_foldl (fun m c hc => beside_obey m fun a ha => h a (ha ▸ hc)) _)

theorem beside_spawn (n : Node ω) (h : HandlerId) (d : Delivered) :
    Beside n (n.spawn h d).1 := by
  rw [spawn]
  split <;> exact .of_eq rfl rfl rfl rfl

theorem beside_release (n : Node ω) (gate : Gate) : Beside n (n.release gate) :=
  .of_eq rfl rfl rfl rfl

theorem beside_acknowledged (n : Node ω) (reply : Reply) : Beside n (n.acknowledged reply) := by
  rw [acknowledged]
  split
  · exact beside_release n _
  · exact .refl n

theorem beside_closeAll {n : Node ω} (h : n.lifetimeOver = true) : Beside n n.closeAll := by
  have hall : ∀ (es : List (String × MemberId)) (m : Node ω), m.lifetimeOver = true →
      Beside m (es.foldl (fun n e => n.updateMember e.2 Member.close) m) := by
    intro es
    induction es with
    | nil => exact fun m _ => .refl m
    | cons e r ih => exact fun m hm => (beside_close hm e.2).trans (ih _ hm)
  exact hall _ n h

variable [Surroundings ω]

theorem beside_touch (n : Node ω) (id : MemberId) : Beside n (n.touch id) :=
  beside_updateMember n id fun _ => rfl

theorem beside_acceptSignal (n : Node ω) (h : HandlerId) (d : Delivered) :
    Beside n (n.acceptSignal h d).1 := by
  have haccepted := acceptSignal_accepted n h d
  generalize n.acceptSignal h d = r at haccepted ⊢
  cases haccepted with
  | repeated hid hr => exact .refl n
  | nameless hid => exact beside_spawn n h d
  | @fresh id m hid hr hm =>
      have hseen : Beside n m := by
        rw [hm]
        exact .of_eq rfl rfl rfl rfl
      exact hseen.trans (beside_spawn m h d)

/-! ## Requests and tasks -/

/-- Surroundings that never wish that a member be closed. -/
structure Considerate (ω : Type) [Surroundings ω] : Prop where
  elapse : ∀ w : ω, Sparing (Surroundings.elapse w).2
  receive : ∀ (w : ω) (sender : String) (call : ConsensusCall),
    Sparing (Surroundings.receive w sender call).2.1
  answer : ∀ (w : ω) (h : HandlerId) (sender : String) (m : Message),
    Sparing (Surroundings.answer w h sender m).2.1
  take : ∀ (w : ω) (h : HandlerId) (sender : String) (m : Message),
    Sparing (Surroundings.take w h sender m).2.1
  transmit : ∀ (w : ω) (address : String) (call : Outbound),
    Sparing (Surroundings.transmit w address call).2.1

section

variable (hc : Considerate ω)
include hc

theorem beside_elapse (n : Node ω) : Beside n n.elapse := beside_after n _ (hc.elapse n.world)

theorem beside_answer (n : Node ω) (h : HandlerId) (d : Delivered) :
    Beside n (n.answer h d).1 := by
  have hsparing := hc.answer n.world h d.sender d.message
  unfold answer
  split <;> rename_i heq <;> rw [heq] at hsparing <;> exact beside_after n _ hsparing

theorem beside_receiveMessage (n : Node ω) (d : Delivered) : Beside n (n.receiveMessage d).1 := by
  have hreceived := receiveMessage_received n d
  generalize n.receiveMessage d = r at hreceived ⊢
  cases hreceived with
  | stranger hs => exact .refl n
  | misdirected hs hl => exact beside_touch n _
  | unsupported hs ht hf => exact beside_touch n _
  | questioned hs ht hf hd => exact (beside_touch n _).trans (beside_answer hc _ _ d)
  | signalled hs ht hf hd => exact (beside_touch n _).trans (beside_acceptSignal _ _ d)

theorem beside_consult (n : Node ω) (id : MemberId) (sender : String) (call : ConsensusCall) :
    Beside n (n.consult id sender call).1 := by
  rw [consult_eq]
  exact (beside_touch n id).trans (beside_after _ _ (hc.receive n.world sender call))

theorem beside_route (n : Node ω) (request : Request) : Beside n (n.route request).1 := by
  cases hquestion : question? request with
  | some q =>
      rw [route_of_question? n hquestion, ask]
      split
      · exact .refl n
      · exact beside_consult hc ..
  | none =>
      cases request with
      | metadata sender =>
          rw [route, tellMetadata_eq]
          cases sender.bind n.registry.get? with
          | none => exact .refl n
          | some id => exact beside_touch n id
      | custom d => exact beside_receiveMessage hc n d
      | _ => cases hquestion

theorem beside_consensus (s : Http.Service) (n : Node ω) (r : Http.Incoming) :
    Beside n (s.consensus n r).1 := by
  cases hb : s.body r with
  | error fault =>
      rw [Http.Service.consensus, hb]
      exact .refl n
  | ok body =>
      rw [consensus_of_body n hb, dispatch]
      split
      · exact .refl n
      · exact beside_route hc n _

theorem beside_respond (s : Http.Service) (n : Node ω) (r : Http.Incoming) :
    Beside n (s.respond n r).1 := by
  rw [Http.Service.respond, Http.Service.resource]
  split
  · split
    · exact .refl n
    · split
      · exact .refl n
      · exact beside_consensus hc s n r
  · exact .refl n

theorem beside_runTask (n : Node ω) (t : Task) : Beside n (n.runTask t) := by
  have hsparing := hc.take n.world t.handler t.delivered.sender t.delivered.message
  unfold runTask
  dsimp only
  split
  · rename_i heq
    rw [heq] at hsparing
    exact beside_after n _ hsparing
  · rename_i heq
    rw [heq] at hsparing
    exact (beside_after n _ hsparing).trans (.of_eq rfl rfl rfl rfl)

theorem beside_runTasks (n : Node ω) : Beside n n.runTasks := by
  have htaken : Beside n { n with tasks := (n.tasks.partition (·.stage = .ready)).2 } :=
    .of_eq rfl rfl rfl rfl
  exact htaken.trans (beside_foldl (fun m t _ => beside_runTask hc m t) _)

end

/-! ## The loop and its passes -/

/-- The loop of a node is in a pass exactly when one is under way, and before the same
announcement. -/
def Situation.InStep (x : Situation ω) : Prop :=
  match x.node.follower with
  | .reconciling _ p => ∃ d b r j, x.underway = some ⟨d, b, r, j⟩ ∧ j.Left d (some p)
  | _ => x.underway = none

/-- From one state of a node to another there is a way of single steps. -/
def Onward (n n' : Node ω) : Prop :=
  ∀ x : Situation ω, x.node = n → x.InStep → ∃ y, Leads x y ∧ y.node = n' ∧ y.InStep

namespace Situation

variable {n : Node ω} {u : Option Underway} {k : Minutes}

omit [Surroundings ω] in
theorem inStep_of_not_halfway (h : n.isHalfway = false) : (⟨n, none, k⟩ : Situation ω).InStep := by
  rw [InStep]
  dsimp only
  split
  · rename_i hfollower
    rw [isHalfway, hfollower] at h
    cases h
  · rfl

omit [Surroundings ω] in
theorem InStep.underway_eq_none (hstep : (⟨n, u, k⟩ : Situation ω).InStep)
    (h : n.isHalfway = false) : u = none := by
  rw [InStep] at hstep
  dsimp only at hstep
  split at hstep
  · rename_i hfollower
    rw [isHalfway, hfollower] at h
    cases h
  · exact hstep

end Situation

section

variable {n n' n'' : Node ω}

theorem Onward.refl (n : Node ω) : Onward n n := fun x hx hstep => ⟨x, .refl, hx, hstep⟩

theorem Onward.trans (h : Onward n n') (h' : Onward n' n'') : Onward n n'' := by
  intro x hx hstep
  obtain ⟨y, hy, hnode, hstep⟩ := h x hx hstep
  obtain ⟨z, hz, hnode, hstep⟩ := h' y hnode hstep
  exact ⟨z, hy.trans hz, hnode, hstep⟩

theorem Beside.onward (h : Beside n n') : Onward n n' := by
  rintro ⟨m, u, k⟩ rfl hstep
  refine ⟨⟨n', u, k⟩, .single (.aside h.toApart), rfl, ?_⟩
  rw [Situation.InStep] at hstep ⊢
  dsimp only at hstep ⊢
  rw [h.follower]
  exact hstep

omit [Surroundings ω] in
theorem apart_follower (n : Node ω) (f : Follower) : Apart n { n with follower := f } :=
  ⟨rfl, rfl, fun h => h, fun _ h => h, fun _ h => .inl h⟩

/-- A loop that is in no pass may go on or end. -/
theorem onward_loop {f : Follower} (h : n.isHalfway = false)
    (hf : { n with follower := f }.isHalfway = false) : Onward n { n with follower := f } := by
  rintro ⟨m, u, k⟩ rfl hstep
  obtain rfl := hstep.underway_eq_none h
  exact ⟨_, .single (.aside (apart_follower m f)), rfl, Situation.inStep_of_not_halfway hf⟩

/-- The loop leaves a pass as its turn has ended. -/
theorem leads_follows {d : Membership} {b : Registry} {r : Report} {j : Juncture} {k : Minutes}
    {p : Option Pass} (hj : j.Left d p) (s : Membership.Subscription) (n : Node ω)
    (a : Allowance) : ∃ y, Leads ⟨n, some ⟨d, b, r, j⟩, k⟩ y
      ∧ y.node = (follows s (n, a, p)).1 ∧ y.InStep := by
  cases hj with
  | ended => exact ⟨_, .tail (.single .finished) (.aside (apart_follower n _)), rfl, rfl⟩
  | stopped htells hahead =>
      exact ⟨_, .single (.aside (apart_follower n _)), rfl, d, b, r, j, rfl, .stopped htells hahead⟩

theorem follower_perform (n : Node ω) (desired : List String) (c : Chore) :
    (n.perform desired c).1.follower = n.follower := by
  cases c with
  | discharge address =>
      have hd := discharge_discharged n desired address
      rw [perform]
      generalize n.discharge desired address = out at hd ⊢
      cases hd <;> rfl
  | enlist address =>
      have he := enlist_enlisted n address
      rw [perform]
      generalize n.enlist address = out at he ⊢
      cases he <;> rfl

theorem follower_foldl_step (desired : List String) (cs : List Chore) (s : Node ω × Report) :
    (cs.foldl (step desired) s).1.follower = s.1.follower := by
  induction cs generalizing s with
  | nil => rfl
  | cons c r ih =>
      have hperform := follower_perform s.1 desired c
      rw [List.foldl_cons, ih, step]
      generalize s.1.perform desired c = out at hperform ⊢
      obtain ⟨n, effect⟩ := out
      cases effect <;> exact hperform

theorem isHalfway_reconcile (n : Node ω) (d : Membership) :
    (n.reconcile d).1.isHalfway = n.isHalfway := by
  have hfollower : (n.reconcile d).1.follower = n.follower :=
    follower_foldl_step d.members (n.chores d.members) (n.adopt d, .empty)
  rw [isHalfway, hfollower, isHalfway]

theorem onward_reconcile (h : n.isHalfway = false) (d : Membership) :
    Onward n (n.reconcile d).1 := by
  rintro ⟨m, u, k⟩ rfl hstep
  obtain rfl := hstep.underway_eq_none h
  obtain ⟨heard, hleads⟩ := leads_reconcile (k := k) m d
  exact ⟨_, hleads, rfl,
    Situation.inStep_of_not_halfway ((isHalfway_reconcile m d).trans h)⟩

theorem onward_follow (n : Node ω) (a : Allowance) : Onward n (n.follow a).1 := by
  cases hfollower : n.follower with
  | idle s =>
      rw [follow, hfollower]
      exact .refl n
  | ended =>
      rw [follow, hfollower]
      exact .refl n
  | reconciling s p =>
      rw [follow, hfollower]
      rintro ⟨m, u, k⟩ rfl hstep
      rw [Situation.InStep] at hstep
      dsimp only at hstep hfollower ⊢
      rw [hfollower] at hstep
      obtain ⟨d, b, r, j, rfl, hleft⟩ := hstep
      cases hleft with
      | @stopped _ j' e cs htells hahead =>
          rw [resume]
          cases a.spend? 1 with
          | none => exact leads_follows (.stopped htells hahead) s m a
          | some a =>
              obtain ⟨r', j'', heard, hleft, hadvance⟩ := leads_advance (n := m.announce e) (d := d)
                (b := b) (r := r.note (.changed e)) (k := k.hear e) hahead a
              obtain ⟨y, hy, hnode, hstep⟩ := leads_follows hleft s
                (advance d.members a cs (m.announce e)).1
                (advance d.members a cs (m.announce e)).2.1
              exact ⟨y, .head (.told htells) (hadvance.trans hy), hnode, hstep⟩
  | following s =>
      have hhalfway : n.isHalfway = false := by rw [isHalfway, hfollower]
      rw [follow, hfollower]
      dsimp only
      split
      · exact onward_loop hhalfway rfl
      · rcases n.channel.next s with ⟨s', change⟩
        cases change with
        | pending => exact .refl n
        | closed => exact onward_loop hhalfway rfl
        | changed d =>
            dsimp only
            cases a.spend? 2 with
            | none => exact .refl n
            | some a =>
                rintro ⟨m, u, k⟩ rfl hstep
                obtain rfl := hstep.underway_eq_none hhalfway
                obtain ⟨r', j', heard, hleft, hadvance⟩ := leads_advance (n := m.adopt d) (d := d)
                  (b := m.registry) (r := .empty) (k := { k with asked := k.asked ++ [d] })
                  (.clearing m.registry.addresses) a
                obtain ⟨y, hy, hnode, hstep⟩ := leads_follows hleft s'
                  (advance d.members a (m.chores d.members) (m.adopt d)).1
                  (advance d.members a (m.chores d.members) (m.adopt d)).2.1
                exact ⟨y, (leads_begin m d).trans (hadvance.trans hy), hnode, hstep⟩

theorem onward_turn (n : Node ω) (a : Allowance) : Onward n (n.turn a) :=
  ((onward_follow n a).trans (onward_follow _ _)).trans (onward_follow _ _)

theorem onward_start (n : Node ω) : Onward n n.start.1 := by
  rw [start]
  split
  · rename_i s hfollower
    have hhalfway : n.isHalfway = false := by rw [isHalfway, hfollower]
    exact (onward_reconcile hhalfway n.channel.current).trans
      (onward_loop ((isHalfway_reconcile n _).trans hhalfway) rfl)
  · exact .refl n

end

/-! ## All that happens -/

section

variable (hc : Considerate ω)
include hc

theorem onward_dispatchHere (n : Node ω) (x : Errand) : Onward n (n.dispatchHere x).1 := by
  have hreceive := beside_receiveMessage hc n (x.delivered n.registry.localAddress)
  rw [dispatchHere]
  generalize n.receiveMessage (x.delivered n.registry.localAddress) = out at hreceive ⊢
  obtain ⟨m, ending⟩ := out
  cases ending with
  | never => exact hreceive.onward
  | returned result =>
      cases result with
      | error fault => exact hreceive.onward
      | ok reply => exact (hreceive.trans (beside_acknowledged m reply)).onward

theorem onward_upheld : Upheld (Onward (ω := ω)) where
  refl := .refl
  trans := .trans
  turn := onward_turn
  runTasks := fun n => (beside_runTasks hc n).onward
  elapse := fun n => (beside_elapse hc n).onward
  dispatchHere := onward_dispatchHere hc
  transmit := by
    intro n address o world controls ending ht
    have hsparing := hc.transmit n.world address o
    rw [ht] at hsparing
    exact (beside_after n world hsparing).onward
  learn := fun n id now result => (beside_learn n id now result).onward
  envelop := fun _ _ => Beside.onward (.of_eq rfl rfl rfl rfl)

/-- What may happen at a node while nobody closes its members: a pass waits until none is under
way. -/
def Event.Orderly (n : Node ω) : Event ω → Prop
  | .wished c => ∀ a, c ≠ .closeMember a
  | .reconciled _ => n.isHalfway = false
  | _ => True

theorem onward_happen (n : Node ω) {e : Event ω} (he : e.Orderly n) : Onward n (n.happen e) := by
  cases e with
  | posted s r => exact (beside_respond hc s n r).onward
  | admitted s r => exact (beside_consensus hc s n r).onward
  | released gate => exact (beside_release n gate).onward
  | attempted bound x => exact (onward_upheld hc).attemptHere n bound x
  | called bound id o => exact (onward_upheld hc).call n bound id o
  | handlerAdded h => exact Beside.onward (.of_eq rfl rfl rfl rfl)
  | handlerRemoved h => exact Beside.onward (.of_eq rfl rfl rfl rfl)
  | wished c => exact (beside_obey n he).onward
  | shifted world => exact Beside.onward (.of_eq rfl rfl rfl rfl)
  | elapsed => exact (beside_elapse hc n).onward
  | begun givenUp => exact Beside.onward (.of_eq rfl rfl rfl rfl)
  | started => exact onward_start n
  | reconciled desired => exact onward_reconcile he desired
  | turned a => exact onward_turn n a
  | tasksRun => exact (beside_runTasks hc n).onward
  | trimmed => exact Beside.onward (.of_eq rfl rfl rfl rfl)

theorem onward_shutdown (n : Node ω) : Onward n n.shutdown.1 := by
  have hended : Beside n { n with lifetimeOver := true } := .of_standing rfl rfl (fun _ => rfl) rfl
  have hclosed : Beside n { n with lifetimeOver := true }.closeAll :=
    hended.trans (beside_closeAll rfl)
  have hsettled := hclosed.onward.trans ((onward_upheld hc).settle _)
  rw [shutdown]
  split
  · exact .refl n
  · dsimp only
    split
    · exact hsettled.trans (Beside.onward (.of_eq rfl rfl rfl rfl))
    · exact hsettled

end

/-! ## The life of a node -/

/-- What may happen in the middle of a pass as well: it neither makes passes nor waits for them, and
closes no member. -/
def Event.IsAside : Event ω → Prop
  | .attempted _ _ | .called _ _ _ | .started | .reconciled _ | .turned _ => False
  | .wished c => ∀ a, c ≠ .closeMember a
  | _ => True

theorem apart_happen (hc : Considerate ω) (n : Node ω) {e : Event ω} (he : e.IsAside) :
    Apart n (n.happen e) := by
  cases e with
  | posted s r => exact (beside_respond hc s n r).toApart
  | admitted s r => exact (beside_consensus hc s n r).toApart
  | released gate => exact (beside_release n gate).toApart
  | handlerAdded h => exact Beside.toApart (.of_eq rfl rfl rfl rfl)
  | handlerRemoved h => exact Beside.toApart (.of_eq rfl rfl rfl rfl)
  | wished c => exact (beside_obey n he).toApart
  | shifted world => exact Beside.toApart (.of_eq rfl rfl rfl rfl)
  | elapsed => exact (beside_elapse hc n).toApart
  | begun givenUp => exact Beside.toApart (.of_eq rfl rfl rfl rfl)
  | tasksRun => exact (beside_runTasks hc n).toApart
  | trimmed => exact Beside.toApart (.of_eq rfl rfl rfl rfl)
  | _ => exact he.elim

/-- What a node comes to in its life: whatever happens at it, messages that it sends to the leader,
and shutdowns. -/
inductive Lived (n₀ : Node ω) : Node ω → Prop where
  | built : Lived n₀ n₀
  | happened {n : Node ω} {e : Event ω} : Lived n₀ n → e.Orderly n → Lived n₀ (n.happen e)
  | asked {n : Node ω} (rounds : Nat) (bound : Bound) (m : Wire.Message) : Lived n₀ n →
      Lived n₀ (sendRequest rounds n bound m).1
  | signalled {n : Node ω} (rounds : Nat) (bound : Bound) (m : Wire.Message)
      (d : Wire.Delivery) : Lived n₀ n → Lived n₀ (sendSignal rounds n bound m d).1
  | shut {n : Node ω} : Lived n₀ n → Lived n₀ n.shutdown.1

theorem Lived.onward (hc : Considerate ω) {n₀ n : Node ω} (h : Lived n₀ n) : Onward n₀ n := by
  induction h with
  | built => exact .refl n₀
  | happened _ he ih => exact ih.trans (onward_happen hc _ he)
  | asked rounds bound m _ ih => exact ih.trans ((onward_upheld hc).sendRequest rounds _ bound m)
  | signalled rounds bound m d _ ih =>
      exact ih.trans ((onward_upheld hc).sendSignal rounds _ bound m d)
  | shut _ ih => exact ih.trans (onward_shutdown hc _)

end Conclave.Node

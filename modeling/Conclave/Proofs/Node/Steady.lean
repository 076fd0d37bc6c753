import Conclave.Node.Leader
import Conclave.Node.Lifecycle
import Conclave.Proofs.Node.Receiving
import Conclave.Proofs.Node.Recorded
import Conclave.Proofs.Node.Sustained

/-!
# What the background leaves alone

Whatever runs around a node beside its inbound requests (its surroundings, the loop that follows
the channel, the handlers of its tasks, its calls to members) ends what is to end and undoes nothing:
a lifetime that is over and a caller that gave up stay so, the sightings are the same, and no task is
spawned (`Steady`). It transmits nothing either: a view of the surroundings that only a
transmission changes (`Kept`) is the same.
-/

namespace Conclave.Node

open Wire

variable {ω β : Type}

/-- The number of tasks for the signal with an identity. -/
def tasksOf (n : Node ω) (id : MessageId) : Nat :=
  n.tasks.countP fun t => t.delivered.id = some id

/-- A later state of a node, in which nothing was undone and no task was spawned. -/
structure Steady (view : ω → β) (n n' : Node ω) : Prop where
  view : view n'.world = view n.world
  lifetime : n.lifetimeOver = true → n'.lifetimeOver = true
  caller : n.callerGaveUp = true → n'.callerGaveUp = true
  sightings : n'.sightings = n.sightings
  tasks : ∀ id, n'.tasksOf id ≤ n.tasksOf id

namespace Steady

variable {view : ω → β}

theorem of_eq {n n' : Node ω} (hworld : n'.world = n.world)
    (hlifetime : n'.lifetimeOver = n.lifetimeOver) (hcaller : n'.callerGaveUp = n.callerGaveUp)
    (hsightings : n'.sightings = n.sightings) (htasks : n'.tasks = n.tasks) :
    Steady view n n' where
  view := congrArg view hworld
  lifetime := fun h => hlifetime.trans h
  caller := fun h => hcaller.trans h
  sightings := hsightings
  tasks := fun _ => Nat.le_of_eq (by rw [tasksOf, htasks, tasksOf])

theorem refl (n : Node ω) : Steady view n n := of_eq rfl rfl rfl rfl rfl

theorem trans {n₁ n₂ n₃ : Node ω} (h : Steady view n₁ n₂) (h' : Steady view n₂ n₃) :
    Steady view n₁ n₃ where
  view := h'.view.trans h.view
  lifetime := fun hn => h'.lifetime (h.lifetime hn)
  caller := fun hn => h'.caller (h.caller hn)
  sightings := h'.sightings.trans h.sightings
  tasks := fun id => Nat.le_trans (h'.tasks id) (h.tasks id)

theorem append {n n' : Node ω} {ts ts' : List Task}
    (h : Steady view { n with tasks := ts } { n' with tasks := ts' }) (r : List Task) :
    Steady view { n with tasks := ts ++ r } { n' with tasks := ts' ++ r } where
  view := h.view
  lifetime := h.lifetime
  caller := h.caller
  sightings := h.sightings
  tasks := by
    intro id
    have := h.tasks id
    simp only [tasksOf, List.countP_append] at this ⊢
    omega

theorem isGivenUp {n n' : Node ω} (h : Steady view n n') {bound : Bound}
    (hn : n.isGivenUp bound = true) : n'.isGivenUp bound = true := by
  cases bound with
  | unbounded => exact hn
  | lifetime => exact h.lifetime hn
  | caller => exact h.caller hn

end Steady

/-! ## Small steps -/

section

variable {view : ω → β}

theorem steady_updateMember (n : Node ω) (id : MemberId) (f : Member → Member) :
    Steady view n (n.updateMember id f) := .of_eq rfl rfl rfl rfl rfl

theorem steady_obey (n : Node ω) (c : Control) : Steady view n (n.obey c) := by
  cases c with
  | endLifetime => exact ⟨rfl, fun _ => rfl, id, rfl, fun _ => Nat.le_refl _⟩
  | giveUp => exact ⟨rfl, id, fun _ => rfl, rfl, fun _ => Nat.le_refl _⟩
  | publish desired => exact .of_eq rfl rfl rfl rfl rfl
  | closeMember address =>
      rw [obey, closeMember]
      split
      · exact steady_updateMember ..
      · exact .refl n

theorem steady_after {n : Node ω} {world : ω} (h : view world = view n.world)
    (controls : List Control) : Steady view n (n.after world controls) := by
  have hworld : Steady view n { n with world := world } :=
    ⟨h, id, id, rfl, fun _ => Nat.le_refl _⟩
  exact hworld.trans (sustained_foldl Steady.refl Steady.trans steady_obey controls _)

@[simp] theorem world_after (n : Node ω) (world : ω) (controls : List Control) :
    (n.after world controls).world = world := by
  have h : Steady id { n with world := world } (n.after world controls) :=
    sustained_foldl Steady.refl Steady.trans steady_obey controls { n with world := world }
  exact h.view

theorem tasks_obey (n : Node ω) (c : Control) : (n.obey c).tasks = n.tasks := by
  cases c with
  | endLifetime => rfl
  | giveUp => rfl
  | publish desired => rfl
  | closeMember address =>
      rw [obey, closeMember]
      split <;> rfl

@[simp] theorem tasks_after (n : Node ω) (world : ω) (controls : List Control) :
    (n.after world controls).tasks = n.tasks :=
  sustained_foldl (R := fun n n' => n'.tasks = n.tasks) (fun _ => rfl)
    (fun hn hn' => hn'.trans hn) tasks_obey controls { n with world := world }

theorem steady_discharge (n : Node ω) (desired : List String) (address : String) :
    Steady view n (n.discharge desired address).1 := by
  unfold discharge
  split
  · exact .refl n
  · split
    · exact .refl n
    · exact .of_eq rfl rfl rfl rfl rfl

end

/-! ## What runs in the background -/

variable [Surroundings ω]

/-- A view of the surroundings that none of their steps but a transmission changes. -/
structure Kept (view : ω → β) : Prop where
  elapse : ∀ w, view (Surroundings.elapse w).1 = view w
  receive : ∀ w sender call, view (Surroundings.receive w sender call).1 = view w
  answer : ∀ w h sender m, view (Surroundings.answer w h sender m).1 = view w
  take : ∀ w h sender m, view (Surroundings.take w h sender m).1 = view w
  freshId : ∀ w : ω, view (Surroundings.freshId w).2 = view w
  hear : ∀ w e, view (Surroundings.hear w e) = view w

theorem kept_unit : Kept fun _ : ω => () :=
  ⟨fun _ => rfl, fun _ _ _ => rfl, fun _ _ _ _ => rfl, fun _ _ _ _ => rfl, fun _ => rfl,
    fun _ _ => rfl⟩

theorem kept_transmissions : Kept (Recorded.transmissions (ω := ω)) where
  elapse := fun _ => rfl
  receive := fun w _ _ => (Recorded.transmissions_note w _ _).trans (List.append_nil _)
  answer := fun w _ _ _ => (Recorded.transmissions_note w _ _).trans (List.append_nil _)
  take := fun w _ _ _ => (Recorded.transmissions_note w _ _).trans (List.append_nil _)
  freshId := fun _ => rfl
  hear := fun _ _ => rfl

section

variable {view : ω → β} (hv : Kept view)
include hv

theorem steady_elapse (n : Node ω) : Steady view n n.elapse :=
  steady_after (hv.elapse n.world) _

theorem steady_announce (n : Node ω) (e : MemberEvent) : Steady view n (n.announce e) :=
  ⟨hv.hear n.world e, id, id, rfl, fun _ => Nat.le_refl _⟩

end

section

variable {view : ω → β}

theorem steady_enlist (n : Node ω) (address : String) :
    Steady view n (n.enlist address).1 := by
  unfold enlist
  split
  · exact .refl n
  · unfold makeMember
    cases Surroundings.accept n.world address with
    | error fault => exact .refl n
    | ok _ => exact .of_eq rfl rfl rfl rfl rfl

theorem steady_perform (n : Node ω) (desired : List String) (c : Chore) :
    Steady view n (n.perform desired c).1 := by
  cases c with
  | discharge address => exact steady_discharge n desired address
  | enlist address => exact steady_enlist n address

end

section

variable {view : ω → β} (hv : Kept view)
include hv

theorem sustained_steady : Sustained (Steady view : Node ω → Node ω → Prop) where
  refl := .refl
  trans := .trans
  perform := steady_perform
  announce := steady_announce hv
  adopt _ _ := .of_eq rfl rfl rfl rfl rfl
  follower _ _ := .of_eq rfl rfl rfl rfl rfl

/-- A task that runs is not spawned again. -/
theorem steady_runTask (n : Node ω) (t : Task) :
    Steady view { n with tasks := n.tasks ++ [t] } (n.runTask t) := by
  have htake := hv.take n.world t.handler t.delivered.sender t.delivered.message
  unfold runTask
  dsimp only
  split
  · rename_i world controls value heq
    rw [heq] at htake
    have hafter := steady_after htake controls
    refine ⟨hafter.view, hafter.lifetime, hafter.caller, hafter.sightings, fun id => ?_⟩
    simp [tasksOf, List.countP_append]
  · rename_i world controls heq
    rw [heq] at htake
    have hafter := steady_after htake controls
    refine ⟨hafter.view, hafter.lifetime, hafter.caller, hafter.sightings, fun id => ?_⟩
    simp [tasksOf, List.countP_append, List.countP_cons]

theorem steady_foldl_runTask (ts : List Task) (n : Node ω) :
    Steady view { n with tasks := n.tasks ++ ts } (ts.foldl runTask n) := by
  induction ts generalizing n with
  | nil =>
      rw [List.append_nil]
      exact .refl n
  | cons t r ih =>
      have hfirst := (steady_runTask hv n t).append r
      rw [List.append_assoc, List.singleton_append] at hfirst
      exact hfirst.trans (ih (n.runTask t))

theorem steady_runTasks (n : Node ω) : Steady view n n.runTasks := by
  let ready := n.tasks.filter (·.stage = .ready)
  let others := n.tasks.filter (not ∘ (·.stage = .ready))
  have hsplit : Steady view n { n with tasks := others ++ ready } := by
    refine ⟨rfl, id, id, rfl, fun id => ?_⟩
    have hcount := List.countP_eq_countP_filter_add n.tasks (·.delivered.id = some id)
      (·.stage = .ready)
    rw [tasksOf, List.countP_append, tasksOf, hcount]
    exact Nat.le_of_eq (Nat.add_comm ..)
  have hrun := steady_foldl_runTask hv ready { n with tasks := others }
  rw [runTasks, List.partition_eq_filter_filter]
  exact hsplit.trans hrun

theorem steady_settle (n : Node ω) : Steady view n n.settle :=
  (((sustained_steady hv).turn n _).trans (steady_runTasks hv _)).trans ((sustained_steady hv).turn _ _)

theorem steady_pause (n : Node ω) : Steady view n n.pause :=
  (steady_settle hv n).trans (steady_elapse hv _)

theorem steady_giveWay (n : Node ω) : Steady view n n.giveWay := by
  have hturn := ((sustained_steady hv).turn n .turn).trans (steady_runTasks hv _)
  unfold giveWay
  dsimp only
  split
  · exact hturn.trans (steady_elapse hv _)
  · exact (hturn.trans ((sustained_steady hv).turn _ _)).trans (steady_elapse hv _)

end

/-! ## What requests do before a signal is accepted -/

section

variable {view : ω → β}

theorem steady_touch (n : Node ω) (id : MemberId) : Steady view n (n.touch id) :=
  steady_updateMember n id _

omit [Surroundings ω] in
/-- An opened gate changes how far tasks are, and not what they are for. -/
theorem tasksOf_release (n : Node ω) (gate : Gate) (id : MessageId) :
    (n.release gate).tasksOf id = n.tasksOf id := by
  have hsame : ∀ t : Task, (if t.stage = .waiting gate then { t with stage := .ready } else t
      : Task).delivered = t.delivered := by
    intro t
    split <;> rfl
  simp [tasksOf, release, List.countP_map, Function.comp_def, hsame]

omit [Surroundings ω] in
theorem steady_release (n : Node ω) (gate : Gate) : Steady view n (n.release gate) :=
  ⟨rfl, id, id, rfl, fun id => Nat.le_of_eq (tasksOf_release n gate id)⟩

end

section

variable {view : ω → β} (hv : Kept view)
include hv

theorem steady_consult (n : Node ω) (id : MemberId) (sender : String) (call : ConsensusCall) :
    Steady view n (n.consult id sender call).1 := by
  have hreceive := hv.receive (n.touch id).world sender call
  unfold consult
  dsimp only
  split
  · rename_i world controls value heq
    rw [heq] at hreceive
    exact (steady_touch n id).trans (steady_after hreceive controls)
  · rename_i world controls chain heq
    rw [heq] at hreceive
    exact (steady_touch n id).trans (steady_after hreceive controls)

theorem steady_receiveVote (n : Node ω) (sender : String) (r : VoteRequest) :
    Steady view n (n.receiveVote sender r).1 := by
  unfold receiveVote
  split
  · exact .refl n
  · exact steady_consult hv ..

theorem steady_receiveOrder (n : Node ω) (sender : String) (call : ConsensusCall) :
    Steady view n (n.receiveOrder sender call).1 := by
  unfold receiveOrder
  split
  · exact .refl n
  · exact steady_consult hv ..

omit hv in
theorem steady_tellMetadata (n : Node ω) (sender : Option String) :
    Steady view n (n.tellMetadata sender).1 := by
  unfold tellMetadata
  dsimp only
  split
  · exact steady_touch ..
  · exact .refl n

theorem steady_answer (n : Node ω) (h : HandlerId) (d : Delivered) :
    Steady view n (n.answer h d).1 := by
  have hanswer := hv.answer n.world h d.sender d.message
  unfold answer
  split <;> rename_i heq <;> rw [heq] at hanswer <;> exact steady_after hanswer _

/-- A message that arrives is not transmitted any further. -/
theorem view_receiveMessage (n : Node ω) (d : Delivered) :
    view (n.receiveMessage d).1.world = view n.world := by
  have hreceived := receiveMessage_received n d
  generalize n.receiveMessage d = r at hreceived ⊢
  cases hreceived with
  | stranger hs => rfl
  | misdirected hs hl => rfl
  | unsupported hs ht hf => rfl
  | questioned hs ht hf hd => exact (steady_answer hv _ _ d).view
  | signalled hs ht hf hd => exact congrArg view (world_acceptSignal ..)

end

end Conclave.Node

import Conclave.Proofs.Node.Calling

/-!
# What is no business of the handlers

Among recorded surroundings, `given` is what was given to handlers: the requests they were asked to
answer and the signals they were asked to take. Only a message that arrives and a task that runs
give something to a handler. All else registers no handler and removes none, leaves the tasks
alone and gives nothing to anyone (`Aloof`, with a lemma for each function).
-/

namespace Conclave.Node

open Wire

variable {ω : Type}

/-! ## What is given to handlers -/

def Asked.isGiven : Asked → Bool
  | .questioned .. | .signalled .. => true
  | _ => false

namespace Recorded

def given (r : Recorded ω) : List Asked := r.asked.filter Asked.isGiven

theorem given_note (r : Recorded ω) {a : Asked} (h : a.isGiven = true) (world : ω) :
    (r.note a world).given = r.given ++ [a] := by
  simp [given, note, h]

theorem given_note_other (r : Recorded ω) {a : Asked} (h : a.isGiven = false) (world : ω) :
    (r.note a world).given = r.given := by
  simp [given, note, h]

end Recorded

/-! ## The frame -/

/-- Two states of a node with the same handlers and tasks, between which nothing was given to a
handler. -/
structure Aloof (n n' : Node (Recorded ω)) : Prop where
  handlers : n'.handlers = n.handlers
  tasks : n'.tasks = n.tasks
  given : n'.world.given = n.world.given

namespace Aloof

variable {n n' n'' : Node (Recorded ω)}

theorem refl (n : Node (Recorded ω)) : Aloof n n := ⟨rfl, rfl, rfl⟩

theorem trans (h : Aloof n n') (h' : Aloof n' n'') : Aloof n n'' where
  handlers := h'.handlers.trans h.handlers
  tasks := h'.tasks.trans h.tasks
  given := h'.given.trans h.given

end Aloof

theorem aloof_obey (n : Node (Recorded ω)) (c : Control) : Aloof n (n.obey c) := by
  cases c with
  | closeMember address =>
      rw [obey, closeMember]
      split <;> exact ⟨rfl, rfl, rfl⟩
  | _ => exact ⟨rfl, rfl, rfl⟩

theorem aloof_obeyed (n : Node (Recorded ω)) (controls : List Control) :
    Aloof n (controls.foldl obey n) :=
  sustained_foldl Aloof.refl Aloof.trans aloof_obey controls n

theorem aloof_after (n : Node (Recorded ω)) {world : Recorded ω}
    (h : world.given = n.world.given) (controls : List Control) :
    Aloof n (n.after world controls) := by
  have hworld : Aloof n { n with world := world } := ⟨rfl, rfl, h⟩
  exact hworld.trans (aloof_obeyed _ controls)

theorem aloof_updateMember (n : Node (Recorded ω)) (id : MemberId) (f : Member → Member) :
    Aloof n (n.updateMember id f) := ⟨rfl, rfl, rfl⟩

theorem aloof_discharge (n : Node (Recorded ω)) (desired : List String) (address : String) :
    Aloof n (n.discharge desired address).1 := by
  rw [discharge]
  split
  · exact .refl n
  · split <;> exact ⟨rfl, rfl, rfl⟩

variable [Surroundings ω]

theorem aloof_enlist (n : Node (Recorded ω)) (address : String) :
    Aloof n (n.enlist address).1 := by
  rw [enlist, makeMember]
  split
  · exact .refl n
  · cases Surroundings.accept n.world address <;> exact ⟨rfl, rfl, rfl⟩

theorem aloof_perform (n : Node (Recorded ω)) (desired : List String) (c : Chore) :
    Aloof n (n.perform desired c).1 := by
  cases c with
  | discharge address => exact aloof_discharge n desired address
  | enlist address => exact aloof_enlist n address

theorem sustained_aloof : Sustained (Aloof : Node (Recorded ω) → Node (Recorded ω) → Prop) where
  refl := .refl
  trans := .trans
  perform := aloof_perform
  announce _ _ := ⟨rfl, rfl, rfl⟩
  adopt _ _ := ⟨rfl, rfl, rfl⟩
  follower _ _ := ⟨rfl, rfl, rfl⟩

theorem aloof_elapse (n : Node (Recorded ω)) : Aloof n n.elapse := by
  have hgiven : (Surroundings.elapse n.world).1.given = n.world.given := rfl
  rw [elapse]
  exact aloof_after n hgiven (Surroundings.elapse n.world).2

theorem given_transmit {w w' : Recorded ω} {address : String} {o : Outbound}
    {controls : List Control} {ending : Ending (Except Fault o.Answer)}
    (h : Surroundings.transmit w address o = (w', controls, ending)) : w'.given = w.given := by
  obtain rfl : w.note (.transmitted address o) _ = w' := congrArg Prod.fst h
  exact Recorded.given_note_other _ rfl _

/-! ## Requests that are for no handler -/

theorem aloof_consult (n : Node (Recorded ω)) (id : MemberId) (sender : String)
    (call : ConsensusCall) : Aloof n (n.consult id sender call).1 := by
  have htouch : Aloof n (n.touch id) := aloof_updateMember n id _
  have hgiven : (Surroundings.receive (n.touch id).world sender call).1.given
      = (n.touch id).world.given := Recorded.given_note_other _ rfl _
  rw [consult]
  dsimp only
  generalize Surroundings.receive (n.touch id).world sender call = out at hgiven ⊢
  obtain ⟨world, controls, answer⟩ := out
  cases answer <;> exact htouch.trans (aloof_after _ hgiven controls)

theorem aloof_receiveVote (n : Node (Recorded ω)) (sender : String) (r : VoteRequest) :
    Aloof n (n.receiveVote sender r).1 := by
  rw [receiveVote]
  split
  · exact .refl n
  · exact aloof_consult ..

theorem aloof_receiveOrder (n : Node (Recorded ω)) (sender : String) (call : ConsensusCall) :
    Aloof n (n.receiveOrder sender call).1 := by
  rw [receiveOrder]
  split
  · exact .refl n
  · exact aloof_consult ..

theorem aloof_tellMetadata (n : Node (Recorded ω)) (sender : Option String) :
    Aloof n (n.tellMetadata sender).1 := by
  rw [tellMetadata]
  dsimp only
  split
  · exact aloof_updateMember ..
  · exact .refl n

/-- A request that is no message, or cannot be decoded, is for no handler. -/
theorem aloof_or_custom (n : Node (Recorded ω)) (fields : Fields) (body : Body) :
    Aloof n (n.dispatch fields body).1 ∨ ∃ d, n.dispatch fields body = n.receiveMessage d := by
  rw [dispatch]
  cases Request.decode fields body with
  | error fault => exact .inl (.refl n)
  | ok request =>
      cases request with
      | custom d => exact .inr ⟨d, rfl⟩
      | requestVote sender vote => exact .inl (aloof_receiveVote n sender vote)
      | appendEntries sender entries => exact .inl (aloof_receiveOrder ..)
      | installSnapshot sender header snapshot => exact .inl (aloof_receiveOrder ..)
      | resign sender => exact .inl (aloof_receiveOrder ..)
      | metadata sender => exact .inl (aloof_tellMetadata n sender)

/-! ## Handlers at work -/

/-- A handler that answers was given a request, and the node went on. -/
theorem answer_given (n : Node (Recorded ω)) (h : HandlerId) (d : Delivered) :
    (n.answer h d).1.handlers = n.handlers ∧ (n.answer h d).1.tasks = n.tasks
    ∧ (n.answer h d).1.world.given
      = n.world.given ++ [.questioned h d.sender d.message] := by
  have hnoted : (Surroundings.answer n.world h d.sender d.message).1.given
      = n.world.given ++ [.questioned h d.sender d.message] := Recorded.given_note _ rfl _
  rw [answer]
  generalize Surroundings.answer n.world h d.sender d.message = out at hnoted ⊢
  obtain ⟨world, controls, ending⟩ := out
  have hafter := aloof_obeyed { n with world := world } controls
  cases ending with
  | never => exact ⟨hafter.handlers, hafter.tasks, hafter.given.trans hnoted⟩
  | returned result =>
      cases result <;> exact ⟨hafter.handlers, hafter.tasks, hafter.given.trans hnoted⟩

/-- A task that runs gives its signal to its own handler, whoever is registered. -/
theorem runTask_given (n : Node (Recorded ω)) (t : Task) :
    (n.runTask t).handlers = n.handlers
    ∧ (n.runTask t).world.given
      = n.world.given ++ [.signalled t.handler t.delivered.sender t.delivered.message] := by
  have hnoted :
      (Surroundings.take n.world t.handler t.delivered.sender t.delivered.message).1.given
      = n.world.given ++ [.signalled t.handler t.delivered.sender t.delivered.message] :=
    Recorded.given_note _ rfl _
  rw [runTask]
  dsimp only
  generalize Surroundings.take n.world t.handler t.delivered.sender t.delivered.message = out
    at hnoted ⊢
  obtain ⟨world, controls, ending⟩ := out
  have hafter := aloof_obeyed { n with world := world } controls
  cases ending <;> exact ⟨hafter.handlers, hafter.given.trans hnoted⟩

end Conclave.Node

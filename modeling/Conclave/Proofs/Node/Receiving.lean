import Conclave.Node.Dispatch
import Conclave.Node.Leader

/-!
# What becomes of an application message

`receiveMessage` looks at the sender, the leader and the handlers before anything happens.
`Received` lists what can become of a message, one case for each way through these looks, and
`receiveMessage_received` says that there is no other. `Accepted` does the same for a signal that
found its handler. The statements about refusals, signals and errands are case splits over the two.
-/

namespace Conclave.Node

open Wire

variable {ω : Type}

section

variable [Surroundings ω]

/-! ## Contact with a member -/

@[simp] theorem world_touch (n : Node ω) (id : MemberId) : (n.touch id).world = n.world := rfl

@[simp] theorem handlers_touch (n : Node ω) (id : MemberId) :
    (n.touch id).handlers = n.handlers := rfl

@[simp] theorem isLeader_touch (n : Node ω) (id : MemberId) :
    (n.touch id).isLeader = n.isLeader := rfl

/-! ## Messages -/

/-- Whether a node may take a message: it leads, or the message does not ask for the leader. -/
def mayTake (n : Node ω) (d : Delivered) : Prop := d.respectLeadership = true → n.isLeader = true

def handlerFor (n : Node ω) (d : Delivered) : Option HandlerId :=
  n.handlers.find? (Surroundings.supports n.world) d.message.name

/-- What can become of a message: the node afterwards and what the sender is told. -/
inductive Received (n : Node ω) (d : Delivered) : Node ω × Ending (Except Fault Reply) → Prop where
  | stranger : n.registry.get? d.sender = none →
      Received n d (n, .returned (.ok (.status .notFound)))
  | misdirected {id : MemberId} : n.registry.get? d.sender = some id → ¬ n.mayTake d →
      Received n d (n.touch id, .returned (.ok (.status .serviceUnavailable)))
  | unsupported {id : MemberId} : n.registry.get? d.sender = some id → n.mayTake d →
      n.handlerFor d = none →
      Received n d (n.touch id, .returned (.ok (.status .notImplemented)))
  | questioned {id : MemberId} {h : HandlerId} : n.registry.get? d.sender = some id →
      n.mayTake d → n.handlerFor d = some h → d.delivery = .requestReply →
      Received n d ((n.touch id).answer h d)
  | signalled {id : MemberId} {h : HandlerId} : n.registry.get? d.sender = some id →
      n.mayTake d → n.handlerFor d = some h → d.delivery ≠ .requestReply →
      Received n d (((n.touch id).acceptSignal h d).1,
        .returned (.ok ((n.touch id).acceptSignal h d).2))

theorem mayTake_iff (n : Node ω) (d : Delivered) :
    n.mayTake d ↔ ¬ (d.respectLeadership && !n.isLeader) = true := by
  cases hr : d.respectLeadership <;> cases hl : n.isLeader <;> simp [mayTake, hr, hl]

/-- Nothing else becomes of a message. -/
theorem receiveMessage_received (n : Node ω) (d : Delivered) :
    Received n d (n.receiveMessage d) := by
  rw [receiveMessage]
  split
  · rename_i hs
    exact .stranger hs
  · rename_i id hs
    dsimp only
    rw [isLeader_touch, handlers_touch, world_touch]
    split
    · rename_i hl
      exact .misdirected hs fun ht => (n.mayTake_iff d).mp ht hl
    · rename_i hl
      have ht : n.mayTake d := (n.mayTake_iff d).mpr hl
      split
      · rename_i hf
        exact .unsupported hs ht hf
      · rename_i h hf
        split
        · rename_i hd
          exact .questioned hs ht hf hd
        · rename_i hd
          exact .signalled hs ht hf hd

end

/-! ## Signals -/

def firstStage (n : Node ω) (d : Delivered) : Stage :=
  if d.delivery = .oneWayNoAck then .waiting n.gates else .ready

theorem tasks_spawn (n : Node ω) (h : HandlerId) (d : Delivered) :
    (n.spawn h d).1.tasks = n.tasks ++ [⟨h, d, n.firstStage d⟩] := by
  unfold spawn firstStage
  split <;> rfl

@[simp] theorem sightings_spawn (n : Node ω) (h : HandlerId) (d : Delivered) :
    (n.spawn h d).1.sightings = n.sightings := by
  unfold spawn
  split <;> rfl

@[simp] theorem world_spawn (n : Node ω) (h : HandlerId) (d : Delivered) :
    (n.spawn h d).1.world = n.world := by
  unfold spawn
  split <;> rfl

section

variable [Surroundings ω]

/-- What can become of a signal that found its handler: it is known already, or it becomes a
task. -/
inductive Accepted (n : Node ω) (h : HandlerId) (d : Delivered) : Node ω × Reply → Prop where
  | repeated {id : MessageId} : d.id = some id → n.sightings.remembers n.now id = true →
      Accepted n h d (n, .accepted none)
  | nameless : d.id = none → Accepted n h d ((n.spawn h d).1, .accepted (n.spawn h d).2)
  | fresh {id : MessageId} {m : Node ω} : d.id = some id →
      n.sightings.remembers n.now id = false →
      m = { n with sightings := (n.sightings.see n.now id).1 } →
      Accepted n h d ((m.spawn h d).1, .accepted (m.spawn h d).2)

/-- Nothing else becomes of a signal. -/
theorem acceptSignal_accepted (n : Node ω) (h : HandlerId) (d : Delivered) :
    Accepted n h d (n.acceptSignal h d) := by
  rw [acceptSignal]
  split
  · rename_i hid
    exact .nameless hid
  · rename_i id hid
    cases hr : n.sightings.remembers n.now id with
    | true =>
        have hsee : n.sightings.see n.now id = (n.sightings, true) := by
          rw [Sightings.see, if_pos hr]
        rw [hsee]
        exact .repeated hid hr
    | false =>
        have hsee : n.sightings.see n.now id = ((n.sightings.see n.now id).1, false) := by
          rw [Sightings.see, if_neg (by simp [hr])]
          split <;> rfl
        rw [hsee]
        exact .fresh hid hr rfl

@[simp] theorem world_acceptSignal (n : Node ω) (h : HandlerId) (d : Delivered) :
    (n.acceptSignal h d).1.world = n.world := by
  have haccepted := acceptSignal_accepted n h d
  generalize n.acceptSignal h d = r at haccepted ⊢
  cases haccepted with
  | repeated hid hr => rfl
  | nameless hid => exact world_spawn ..
  | fresh hid hr hm =>
      rw [world_spawn, hm]

/-- A message that is no question changes nothing around the node. -/
theorem world_receiveMessage (n : Node ω) {d : Delivered} (hd : d.delivery ≠ .requestReply) :
    (n.receiveMessage d).1.world = n.world := by
  have hreceived := receiveMessage_received n d
  generalize n.receiveMessage d = r at hreceived ⊢
  cases hreceived with
  | stranger hs => rfl
  | misdirected hs hl => rfl
  | unsupported hs ht hf => rfl
  | questioned hs ht hf hq => exact absurd hq hd
  | signalled hs ht hf hq => exact world_acceptSignal ..

end

end Conclave.Node

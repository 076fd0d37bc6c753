import Conclave.Proofs.Node.Receiving
import Conclave.Proofs.Wire.Spooling

/-!
# Errands and the places of their bodies

A body that arrives is kept in memory or in a file as its length demands (`Body.received`), whereas
an errand that its own node takes care of is passed on as it is kept already. Where handlers look at
the bytes of a body only (`BytesOnly`), this makes no difference but for the place itself: a message
is received alike, and the nodes afterwards differ at most in the places where the bodies of their
tasks are kept (`SameButPlaces`).

`Agrees` says what the sender of an errand is told when the node takes care of it at once, beside
what it is told over HTTP, and `Alike` puts the nodes beside each other as well.
-/

namespace Conclave.Wire

/-! ## Messages with their bodies kept elsewhere -/

namespace Delivered

/-- A message with its body kept somewhere else. -/
def withBody (d : Delivered) (b : Body) : Delivered :=
  { d with message := { d.message with body := b } }

@[simp] theorem sender_withBody (d : Delivered) (b : Body) :
    (d.withBody b).sender = d.sender := rfl

@[simp] theorem id_withBody (d : Delivered) (b : Body) : (d.withBody b).id = d.id := rfl

@[simp] theorem delivery_withBody (d : Delivered) (b : Body) :
    (d.withBody b).delivery = d.delivery := rfl

@[simp] theorem respectLeadership_withBody (d : Delivered) (b : Body) :
    (d.withBody b).respectLeadership = d.respectLeadership := rfl

theorem message_withBody (d : Delivered) (b : Body) :
    (d.withBody b).message = { d.message with body := b } := rfl

@[simp] theorem name_withBody (d : Delivered) (b : Body) :
    (d.withBody b).message.name = d.message.name := rfl

end Delivered

end Conclave.Wire

namespace Conclave.Node

open Wire

section

variable {ω : Type}

/-! ## Where a body is kept -/

/-- Two answers of a handler are the same but for the place where the body of a reply is kept. -/
inductive SameAnswer : Ending (Except (List String) Message) →
    Ending (Except (List String) Message) → Prop where
  | never : SameAnswer .never .never
  | failed (chain : List String) : SameAnswer (.returned (.error chain)) (.returned (.error chain))
  | replied (m : Message) (b : Body) : b.content = m.body.content →
      SameAnswer (.returned (.ok m)) (.returned (.ok { m with body := b }))

/-- Handlers look at the bytes of a body, and not at where it is kept. -/
def BytesOnly (ω : Type) [Surroundings ω] : Prop :=
  ∀ (w : ω) (h : HandlerId) (sender : String) (m : Message) (b : Body),
    b.content = m.body.content →
    (Surroundings.answer w h sender { m with body := b }).1 = (Surroundings.answer w h sender m).1
    ∧ (Surroundings.answer w h sender { m with body := b }).2.1
        = (Surroundings.answer w h sender m).2.1
    ∧ SameAnswer (Surroundings.answer w h sender m).2.2
        (Surroundings.answer w h sender { m with body := b }).2.2

/-- Two replies are the same but for the place where the body of a message is kept. -/
inductive SameReply : Reply → Reply → Prop where
  | refl (reply : Reply) : SameReply reply reply
  | message (m : Message) (b : Body) : b.content = m.body.content →
      SameReply (.message m) (.message { m with body := b })

/-- The same of what becomes of a message. -/
inductive SameResult :
    Ending (Except Fault Reply) → Ending (Except Fault Reply) → Prop where
  | never : SameResult .never .never
  | failed (fault : Fault) : SameResult (.returned (.error fault)) (.returned (.error fault))
  | replied {reply reply' : Reply} : SameReply reply reply' →
      SameResult (.returned (.ok reply)) (.returned (.ok reply'))

theorem SameResult.of_reply (reply : Reply) :
    SameResult (.returned (.ok reply)) (.returned (.ok reply)) := .replied (.refl reply)

/-- A task, whatever the place where its body is kept. -/
def Task.placeless (t : Task) : Task :=
  { t with delivered := t.delivered.withBody (.ofBytes t.delivered.message.body.content) }

/-- A node, whatever the places where the bodies of its tasks are kept. -/
def placeless (n : Node ω) : Node ω := { n with tasks := n.tasks.map Task.placeless }

/-- Two nodes differ at most in the places where the bodies of their tasks are kept. -/
def SameButPlaces (n m : Node ω) : Prop := n.placeless = m.placeless

theorem SameButPlaces.release {n m : Node ω} (h : SameButPlaces n m) (gate : Gate) :
    SameButPlaces (n.release gate) (m.release gate) := by
  have hcommutes : ∀ k : Node ω, (k.release gate).placeless = k.placeless.release gate := by
    intro k
    have htask : ∀ t : Task,
        (if t.stage = .waiting gate then { t with stage := .ready } else t : Task).placeless
          = if t.placeless.stage = .waiting gate then { t.placeless with stage := .ready }
            else t.placeless := by
      intro t
      by_cases hstage : t.stage = .waiting gate <;> simp [Task.placeless, hstage]
    simp [placeless, Node.release, htask]
  rw [SameButPlaces, hcommutes, hcommutes, h]

variable {b : Body} {d : Delivered}

theorem sameButPlaces_spawn (n : Node ω) (h : HandlerId) (hb : b.content = d.message.body.content) :
    (n.spawn h (d.withBody b)).2 = (n.spawn h d).2
    ∧ SameButPlaces (n.spawn h d).1 (n.spawn h (d.withBody b)).1 := by
  rw [spawn, spawn, d.delivery_withBody]
  split
  · refine ⟨rfl, ?_⟩
    simp [SameButPlaces, placeless, Task.placeless, Delivered.withBody, hb]
  · refine ⟨rfl, ?_⟩
    simp [SameButPlaces, placeless, Task.placeless, Delivered.withBody, hb]

variable [Surroundings ω]

theorem sameButPlaces_acceptSignal (n : Node ω) (h : HandlerId)
    (hb : b.content = d.message.body.content) :
    (n.acceptSignal h (d.withBody b)).2 = (n.acceptSignal h d).2
    ∧ SameButPlaces (n.acceptSignal h d).1 (n.acceptSignal h (d.withBody b)).1 := by
  rw [acceptSignal, acceptSignal, d.id_withBody]
  cases d.id with
  | none =>
      obtain ⟨hgate, hnode⟩ := sameButPlaces_spawn n h hb
      exact ⟨congrArg Reply.accepted hgate, hnode⟩
  | some id =>
      dsimp only
      split
      · exact ⟨rfl, rfl⟩
      · rename_i sightings _
        obtain ⟨hgate, hnode⟩ := sameButPlaces_spawn { n with sightings := sightings } h hb
        exact ⟨congrArg Reply.accepted hgate, hnode⟩

theorem sameButPlaces_answer (hbytes : BytesOnly ω) (n : Node ω) (h : HandlerId)
    (hb : b.content = d.message.body.content) :
    SameResult (n.answer h d).2 (n.answer h (d.withBody b)).2
    ∧ SameButPlaces (n.answer h d).1 (n.answer h (d.withBody b)).1 := by
  obtain ⟨hworld, hcontrols, hending⟩ := hbytes n.world h d.sender d.message b hb
  rw [answer, answer, d.sender_withBody, d.message_withBody]
  generalize Surroundings.answer n.world h d.sender { d.message with body := b } = there at *
  generalize Surroundings.answer n.world h d.sender d.message = here at *
  obtain ⟨world, controls, ending⟩ := here
  obtain ⟨world', controls', ending'⟩ := there
  obtain rfl : world' = world := hworld
  obtain rfl : controls' = controls := hcontrols
  cases hending with
  | never => exact ⟨.never, rfl⟩
  | failed chain => exact ⟨.failed _, rfl⟩
  | replied m b' hb' => exact ⟨.replied (.message m b' hb'), rfl⟩

/-- A message is received alike wherever its body is kept. -/
theorem sameButPlaces_receiveMessage (hbytes : BytesOnly ω) (n : Node ω)
    (hb : b.content = d.message.body.content) :
    SameResult (n.receiveMessage d).2 (n.receiveMessage (d.withBody b)).2
    ∧ SameButPlaces (n.receiveMessage d).1 (n.receiveMessage (d.withBody b)).1 := by
  rw [receiveMessage, receiveMessage, d.sender_withBody, d.respectLeadership_withBody,
    d.name_withBody, d.delivery_withBody]
  cases n.registry.get? d.sender with
  | none => exact ⟨.of_reply _, rfl⟩
  | some id =>
      dsimp only
      by_cases hl : (d.respectLeadership && !(n.touch id).isLeader) = true
      · rw [if_pos hl, if_pos hl]
        exact ⟨.of_reply _, rfl⟩
      · rw [if_neg hl, if_neg hl]
        cases (n.touch id).handlers.find? (Surroundings.supports (n.touch id).world)
            d.message.name with
        | none => exact ⟨.of_reply _, rfl⟩
        | some handler =>
            dsimp only
            by_cases hd : d.delivery = .requestReply
            · rw [if_pos hd, if_pos hd]
              exact sameButPlaces_answer hbytes (n.touch id) handler hb
            · rw [if_neg hd, if_neg hd]
              obtain ⟨hreply, hnode⟩ := sameButPlaces_acceptSignal (n.touch id) handler hb
              rw [hreply]
              exact ⟨.of_reply _, hnode⟩

end

/-! ## Errands as they are received -/

namespace Errand

/-- An errand with its message kept somewhere else. -/
def withBody : Errand → Body → Errand
  | request e, b => .request { e with message := { e.message with body := b } }
  | signal e d, b => .signal { e with message := { e.message with body := b } } d

/-- An errand with its message kept as it would be kept by who received it. -/
def received (threshold : Nat) (x : Errand) : Errand :=
  x.withBody (.received threshold x.envelope.message.body.content)

theorem retryStatus_received (x : Errand) (threshold : Nat) :
    (x.received threshold).retryStatus = x.retryStatus := by
  cases x <;> rfl

theorem delivered_received (x : Errand) (threshold : Nat) (address : String) :
    (x.received threshold).delivered address
      = (x.delivered address).withBody (.received threshold x.envelope.message.body.content) := by
  cases x <;> rfl

/-- What the sender of an errand is told: a reply, or that its signal was accepted. -/
def outcome : (x : Errand) → Except Fault x.Answer → Except Fault (Option Message)
  | request _, result => result.map some
  | signal .., result => result.map fun _ => none

/-- Whether an errand is one that is ever sent: a signal is delivered one way. -/
def IsSound : Errand → Prop
  | request _ => True
  | signal _ d => d.isOneWay = true

end Errand

/-- The kinds of verdict. -/
inductive Judgement where
  | delivered | retry | failed | canceled
deriving DecidableEq, Repr

def Verdict.judgement {α : Type} : Verdict α → Judgement
  | delivered _ => .delivered
  | retry _ => .retry
  | failed _ => .failed
  | canceled => .canceled

/-- What the loop makes of the result of an attempt. -/
def Errand.judge (x : Errand) (result : Except Fault x.Answer) : Judgement :=
  (classify x.retryStatus result).judgement

/-- A reply whose name and content type can be sent. -/
def isSendable (m : Message) : Bool := isFieldValue m.name && isFieldValue m.contentType

/-- What the sender is told at once, beside what the member at an address tells it over HTTP. -/
inductive Agrees (address : String) :
    Except Fault (Option Message) → Except Fault (Option Message) → Prop where
  | replied {m m' : Message} : isSendable m = true → m'.name = m.name →
      m'.contentType = m.contentType → m'.body.content = m.body.content →
      Agrees address (.ok (some m)) (.ok (some m'))
  | unsendable {m : Message} : isSendable m = false →
      Agrees address (.ok (some m)) (.error (.remoteStatus address Status.internalError.code))
  | accepted : Agrees address (.ok none) (.ok none)
  | refused {status : Status} : status ∈ [.notFound, .notImplemented, .serviceUnavailable] →
      Agrees address (.error (.remoteStatus address status.code))
        (.error (.remoteStatus address status.code))
  | failed {chain : List String} : Agrees address (.error (.handler chain))
      (.error (.remoteStatus address Status.internalError.code))

/-- How an errand ends at once, beside how it ends over HTTP. The errand over HTTP may be another
one than the errand at once, and `Same` tells which nodes are alike. -/
inductive Alike {ω : Type} (address : String) (Same : Node ω → Node ω → Prop) (x y : Errand) :
    Node ω × Ending (Except Fault x.Answer) → Node ω × Ending (Except Fault y.Answer) → Prop where
  | never {n m : Node ω} : Same n m → Alike address Same x y (n, .never) (m, .never)
  | returned {n m : Node ω} {a : Except Fault x.Answer} {b : Except Fault y.Answer} : Same n m →
      Agrees address (x.outcome a) (y.outcome b) →
      ((∀ reply, x.outcome a = .ok (some reply) → isSendable reply = true) →
        x.judge a = y.judge b) →
      Alike address Same x y (n, .returned a) (m, .returned b)

theorem outcome_error (x : Errand) (f : Fault) : x.outcome (.error f) = .error f := by
  cases x <;> rfl

theorem judgement_error {α β : Type} (retry : Status) (f : Fault) :
    (classify retry (.error f : Except Fault α)).judgement
      = (classify retry (.error f : Except Fault β)).judgement := by
  cases f with
  | remoteStatus address status =>
      rw [classify, classify]
      split <;> rfl
  | _ => rfl

theorem judge_eq (x : Errand) (a : Except Fault x.Answer) :
    x.judge a = (classify x.retryStatus (x.outcome a)).judgement := by
  cases a with
  | ok value => cases x <;> rfl
  | error f =>
      rw [outcome_error]
      exact judgement_error x.retryStatus f

/-- What agrees means the same to the loop, but for a reply that cannot be sent. -/
theorem Agrees.judgement {address : String} {retry : Status} {a b : Except Fault (Option Message)}
    (h : Agrees address a b) (hretry : retry ≠ .internalError)
    (hsendable : ∀ reply, a = .ok (some reply) → isSendable reply = true) :
    (classify retry a).judgement = (classify retry b).judgement := by
  cases h with
  | replied => rfl
  | @unsendable m hunsendable =>
      rw [hsendable m rfl] at hunsendable
      cases hunsendable
  | accepted => rfl
  | refused => rfl
  | failed =>
      have hcode : Status.internalError.code ≠ retry.code := by
        cases retry with
        | internalError => exact absurd rfl hretry
        | _ => decide
      change Judgement.failed = _
      rw [classify, if_neg hcode]
      rfl

theorem Alike.of_agrees {ω : Type} {address : String} {Same : Node ω → Node ω → Prop}
    {x y : Errand} {n m : Node ω} {a : Except Fault x.Answer} {b : Except Fault y.Answer}
    (hsame : Same n m) (h : Agrees address (x.outcome a) (y.outcome b))
    (hretry : x.retryStatus = y.retryStatus) :
    Alike address Same x y (n, .returned a) (m, .returned b) := by
  refine .returned hsame h fun hsendable => ?_
  rw [judge_eq, judge_eq, ← hretry]
  refine h.judgement ?_ hsendable
  cases x <;> exact Status.noConfusion

/-- The place where the body of a reply is kept does not count. -/
theorem Agrees.of_sameReply {address : String} {x : Errand} {threshold : Nat}
    {reply reply' : Reply} {b : Except Fault (Option Message)} (h : SameReply reply reply')
    (ha : Agrees address
      ((x.received threshold).outcome (ownResult address (x.received threshold) reply')) b) :
    Agrees address (x.outcome (ownResult address x reply)) b := by
  cases h with
  | refl => cases x <;> cases reply <;> exact ha
  | message m body hbody =>
      cases x with
      | signal e d => exact ha
      | request e =>
          change Agrees address (.ok (some { m with body := body })) b at ha
          change Agrees address (.ok (some m)) b
          cases ha with
          | replied hsendable hname htype hcontent =>
              exact .replied hsendable hname htype (hcontent.trans hbody)
          | unsendable hunsendable => exact .unsendable hunsendable

end Conclave.Node

import Conclave.Proofs.Node.Signals

/-!
# Signals that are delivered again

A node that has accepted a signal has a sighting of it (`sighted_of_accepted?`), and keeps it as
long as its time is not over and there is room (`mem_foldl_happen`), whatever happens meanwhile. A
signal that is remembered is not given to a handler again (`receive_repeated`): when it comes once
more, the node is in contact with the sender, and that is all that changes.

What the sender is told is another matter. A node looks for the leader and for a handler before it
looks for a sighting. So the repeat is acknowledged by a node that may take it and has a handler
for it, and no other one; `repeat_refused` shows both ways in which a signal that was accepted is
refused later.
-/

namespace Conclave.Node

open Wire
open Http (Service Incoming Response)

variable {ω : Type} [Surroundings ω]

/-! ## Sightings that are kept -/

/-- Along a history, the time of a sighting is not over, and there is room for all sightings whose
time is not over. -/
def Retains (t : Time) (history : List (Moment ω)) : Prop :=
  ∀ m ∈ history, m.now < t + m.node.sightings.retention
    ∧ (m.node.sightings.refresh m.now).entries.length ≤ m.node.sightings.capacity

/-- A signal that is accepted is sighted, if there is any room. -/
theorem sighted_of_accepted? {n : Node ω} {e : Event ω} {id : MessageId}
    (h : n.accepted? e = some id) (hroom : 0 < n.sightings.capacity) :
    ∃ t, (id, t) ∈ (n.happen e).sightings.entries := by
  have himpact := happen_impact n e
  rw [h] at himpact
  cases himpact with
  | repeated hr hsee _ =>
      obtain ⟨t, hmem, -⟩ := Sightings.remembers_iff.mp hr
      rw [hsee]
      exact ⟨t, hmem⟩
  | fresh hr hsee _ =>
      rw [hsee, Sightings.see_of_not_remembers hr hroom]
      exact ⟨n.now, List.mem_concat_self⟩

/-- What happens at a moment does not take away a sighting whose time is not over. -/
theorem mem_happen {n : Node ω} {e : Event ω} {id : MessageId} {t : Time}
    (h : (id, t) ∈ n.sightings.entries) (hyoung : n.now < t + n.sightings.retention)
    (hroom : (n.sightings.refresh n.now).entries.length ≤ n.sightings.capacity) :
    (id, t) ∈ (n.happen e).sightings.entries := by
  have hkept : (id, t) ∈ (n.sightings.refresh n.now).entries :=
    Sightings.mem_refresh.mpr ⟨h, hyoung⟩
  have himpact := happen_impact n e
  generalize n.accepted? e = a at himpact
  cases himpact with
  | nothing hsee _ =>
      rw [hsee]
      exact h
  | trimmed hsee _ =>
      rw [hsee, Sightings.trim_retention hroom]
      exact hkept
  | repeated _ hsee _ =>
      rw [hsee]
      exact h
  | fresh hr hsee _ =>
      rw [hsee]
      rcases Nat.eq_zero_or_pos n.sightings.capacity with hfull | hspace
      · rw [Sightings.see_of_no_room hr hfull]
        exact h
      · rw [Sightings.see_of_not_remembers hr hspace]
        exact List.mem_append_left _ hkept

theorem mem_foldl_happen {es : List (Event ω)} {n : Node ω} {id : MessageId} {t : Time}
    (h : (id, t) ∈ n.sightings.entries) (hretains : Retains t (moments n es)) :
    (id, t) ∈ (es.foldl happen n).sightings.entries := by
  induction es generalizing n with
  | nil => exact h
  | cons e es ih =>
      obtain ⟨hyoung, hroom⟩ := hretains ⟨n, e⟩ (List.mem_cons_self ..)
      exact ih (mem_happen h hyoung hroom) fun m hm => hretains m (List.mem_cons_of_mem _ hm)

/-! ## A signal that is remembered -/

/-- A signal that is remembered changes nothing but the contact with its sender. It is
acknowledged if the node may take it and has a handler for it, and it is refused if the node may
not take it. -/
theorem receive_repeated {n : Node ω} {d : Delivered} {id : MessageId} {member : MemberId}
    (hone : d.delivery ≠ .requestReply) (hid : d.id = some id)
    (hr : n.sightings.remembers n.now id = true) (hs : n.registry.get? d.sender = some member) :
    (n.receiveMessage d).1 = n.touch member
    ∧ (n.mayTake d → (n.handlerFor d).isSome = true →
        (n.receiveMessage d).2 = .returned (.ok (.accepted none)))
    ∧ (¬ n.mayTake d → (n.receiveMessage d).2 = .returned (.ok (.status .serviceUnavailable))) := by
  have hreceived := receiveMessage_received n d
  generalize n.receiveMessage d = r at hreceived ⊢
  cases hreceived with
  | stranger hn => cases hs.symm.trans hn
  | misdirected hs' hl =>
      obtain rfl := Option.some.inj (hs.symm.trans hs')
      exact ⟨rfl, fun ht => absurd ht hl, fun _ => rfl⟩
  | unsupported hs' ht hf =>
      obtain rfl := Option.some.inj (hs.symm.trans hs')
      refine ⟨rfl, fun _ hsome => ?_, fun hl => absurd ht hl⟩
      rw [hf] at hsome
      cases hsome
  | questioned hs' ht hf hq => exact absurd hq hone
  | @signalled _ handler hs' ht hf hq =>
      obtain rfl := Option.some.inj (hs.symm.trans hs')
      have hrepeated : (n.touch member).acceptSignal handler d
          = (n.touch member, .accepted none) := by
        have hknown : (n.touch member).sightings.remembers (n.touch member).now id = true := hr
        rw [acceptSignal, hid]
        dsimp only
        rw [Sightings.see, if_pos hknown]
      rw [hrepeated]
      exact ⟨rfl, fun _ _ => rfl, fun hl => absurd ht hl⟩

/-- Once a signal was accepted it is remembered as long as its time is not over and there is room,
whatever happens meanwhile. When it comes again from a registered sender, no handler has any part
in it: it is acknowledged if the node may take it and has a handler for it, and refused if the
node may not take it. -/
theorem redelivery_acknowledged {n : Node ω} {e : Event ω} {id : MessageId}
    (haccepted : n.accepted? e = some id) (hroom : 0 < n.sightings.capacity) :
    ∃ t, (id, t) ∈ (n.happen e).sightings.entries
    ∧ ∀ es : List (Event ω), Retains t (moments (n.happen e) es) →
      let m := es.foldl happen (n.happen e)
      m.now < t + m.sightings.retention →
      m.sightings.remembers m.now id = true
      ∧ ∀ (s : Service) (q : Incoming) (body : Body) (d : Delivered) (member : MemberId),
        s.body q = .ok body → Request.decode q.fields body = .ok (.custom d) →
        d.delivery ≠ .requestReply → d.id = some id → m.registry.get? d.sender = some member →
        (s.consensus m q).1 = m.touch member
        ∧ (m.mayTake d → (m.handlerFor d).isSome = true →
            (s.consensus m q).2 = .returned ⟨204, [], [], none⟩)
        ∧ (¬ m.mayTake d → (s.consensus m q).2 = .returned (.bare 503)) := by
  obtain ⟨t, hsighted⟩ := sighted_of_accepted? haccepted hroom
  refine ⟨t, hsighted, fun es hretains => ?_⟩
  intro m hyoung
  have hr : m.sightings.remembers m.now id = true :=
    Sightings.remembers_iff.mpr ⟨t, mem_foldl_happen hsighted hretains, hyoung⟩
  refine ⟨hr, fun s q body d member hbody hdecode hone hid hs => ?_⟩
  obtain ⟨hnode, htaken, hrefused⟩ := receive_repeated hone hid hr hs
  have hconsensus : s.consensus m q
      = ((m.receiveMessage d).1, responded (m.receiveMessage d).2) := by
    rw [consensus_of_body m hbody, dispatch, hdecode]
    rfl
  rw [hconsensus]
  refine ⟨hnode, fun ht hf => ?_, fun hl => ?_⟩
  · rw [htaken ht hf]
    rfl
  · rw [hrefused hl]
    rfl

/-! ## The door is closed again -/

/-- The identity of the signal that the visitor sends. -/
def closingId : MessageId := (visitor.envelop closing).1.id

/-- What is received at the keeper when the signal arrives. -/
def closingDelivered (body : Body) : Delivered :=
  ⟨"b:1", some closingId, .oneWay, true, ⟨"close", octetStream, body⟩⟩

theorem closing_received : ∃ body, door.body closingPosted = .ok body
    ∧ Request.decode closingPosted.fields body = .ok (.custom (closingDelivered body)) := by
  obtain ⟨body, hread, hdecode⟩ := decode_of_arrives door closing_arrives
  exact ⟨body, hread, hdecode⟩

theorem consensus_closing {body : Body} (hbody : door.body closingPosted = .ok body)
    (hdecode : Request.decode closingPosted.fields body = .ok (.custom (closingDelivered body)))
    (n : Node Rehearsal.World) : door.consensus n closingPosted
      = ((n.receiveMessage (closingDelivered body)).1,
        responded (n.receiveMessage (closingDelivered body)).2) := by
  rw [consensus_of_body n hbody, dispatch, hdecode]
  rfl

theorem closing_accepted? :
    keeper.accepted? (.admitted door closingPosted) = some closingId := by
  have hid : signalled? door closingPosted = some closingId :=
    signalled?_of_arrives door rfl closing_arrives
  rw [Node.accepted?, closing_accepted, hid]
  rfl

/-- What happens between two deliveries at the keeper: a handler is added, and sightings are
trimmed. -/
def interlude : List (Event Rehearsal.World) := [.handlerAdded 0, .trimmed]

/-- The visitor's signal comes to the keeper once more, and is acknowledged. -/
theorem closing_acknowledged_again :
    keeper.accepted? (.admitted door closingPosted) = some closingId
    ∧ 0 < keeper.sightings.capacity
    ∧ let m := interlude.foldl happen (keeper.happen (.admitted door closingPosted))
      m.sightings.remembers m.now closingId = true
      ∧ (door.consensus m closingPosted).1.tasks = m.tasks
      ∧ (door.consensus m closingPosted).2 = .returned ⟨204, [], [], none⟩ := by
  have hroom : 0 < keeper.sightings.capacity := by decide
  obtain ⟨t, hsighted, hlater⟩ := redelivery_acknowledged closing_accepted? hroom
  obtain ⟨body, hbody, hdecode⟩ := closing_received
  have hnode : keeper.happen (.admitted door closingPosted)
      = (keeper.receiveMessage (closingDelivered body)).1 :=
    congrArg Prod.fst (consensus_closing hbody hdecode keeper)
  rw [hnode] at hsighted hlater ⊢
  obtain rfl : t = 0 := congrArg Prod.snd (List.mem_singleton.mp hsighted)
  have hyoung : (0 : Nat) < 0 + 10 := by decide
  have hfew : 1 ≤ 10 := by decide
  have hretains : Retains 0
      (moments (keeper.receiveMessage (closingDelivered body)).1 interlude) := by
    intro m hm
    simp only [interlude, moments, List.mem_cons, List.not_mem_nil, or_false] at hm
    rcases hm with rfl | rfl <;> exact ⟨hyoung, hfew⟩
  obtain ⟨hr, hagain⟩ := hlater interlude hretains hyoung
  obtain ⟨hsame, htaken, -⟩ := hagain door closingPosted body (closingDelivered body) 1 hbody
    hdecode Delivery.noConfusion rfl rfl
  refine ⟨closing_accepted?, hroom, hr, ?_, htaken (fun _ => rfl) rfl⟩
  rw [hsame]
  rfl

/-- The world of the keeper when another node leads. -/
def deposed : Rehearsal.World :=
  { keeper.world with engine := { keeper.world.engine with leader := some "b:1" } }

/-- The keeper has acknowledged a signal and remembers it. When the same signal comes once more,
it is refused because another node leads by then, or because its handler was removed. -/
theorem repeat_refused :
    (door.consensus keeper closingPosted).2 = .returned ⟨204, [], [], none⟩
    ∧ (let n := (keeper.happen (.admitted door closingPosted)).happen (.shifted deposed)
      n.sightings.remembers n.now closingId = true
      ∧ (door.consensus n closingPosted).2 = .returned (.bare 503))
    ∧ let n := (keeper.happen (.admitted door closingPosted)).happen (.handlerRemoved 0)
      n.sightings.remembers n.now closingId = true
      ∧ (door.consensus n closingPosted).2 = .returned (.bare 501) := by
  obtain ⟨body, hbody, hdecode⟩ := closing_received
  have hconsensus := consensus_closing hbody hdecode
  have hnode : keeper.happen (.admitted door closingPosted)
      = (keeper.receiveMessage (closingDelivered body)).1 :=
    congrArg Prod.fst (hconsensus keeper)
  rw [hnode]
  refine ⟨closing_accepted, ⟨rfl, ?_⟩, rfl, ?_⟩
  · rw [hconsensus]
    rfl
  · rw [hconsensus]
    rfl

end Conclave.Node

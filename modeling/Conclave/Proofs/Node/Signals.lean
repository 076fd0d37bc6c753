import Conclave.Proofs.Http.Carriage
import Conclave.Proofs.Node.Past
import Conclave.Rehearsal.World

/-!
# Signals are taken once

A round of a sender's loop is `Served` by a node when the node made the attempt itself, or when the
call of the round arrived there and the node's response was what the round learnt. If the round
learnt that the signal was delivered, then the node accepted it (`Served.accepted`), and a signal that is
accepted along a calm history becomes one task, however often it is repeated (`signals_once`).
-/

namespace Conclave.Node

open Wire
open Http (Service Peer Incoming Response Arrives)

variable {ω : Type} [Surroundings ω]

/-! ## What a sender learns -/

/-- A round of a sender's loop is served at a moment: it is an attempt of the node itself, or its
call arrives at the node and is answered. -/
inductive Served {ω' : Type} {x : Errand} (m : Moment ω) (r : Round ω' x) : Prop where
  | here {bound : Bound} : m.event = .attempted bound x →
      r.ending = (m.node.attemptHere bound x).2 → Served m r
  | posted {p : Peer} {s : Service} {q : Incoming} {response : Response}
      {headers : List (String × Bytes)} {body : Bytes} {complete : Bool} :
      m.event = .posted s q → Arrives (p.outgoing x.outbound) q →
      (s.respond m.node q).2 = .returned response →
      r.ending = .returned
        (p.interpret x.outbound (.responds response.status headers body complete)) → Served m r
  | admitted {p : Peer} {s : Service} {q : Incoming} {response : Response}
      {headers : List (String × Bytes)} {body : Bytes} {complete : Bool} :
      m.event = .admitted s q → Arrives (p.outgoing x.outbound) q →
      (s.consensus m.node q).2 = .returned response →
      r.ending = .returned
        (p.interpret x.outbound (.responds response.status headers body complete)) → Served m r

section

variable {p : Peer} {e : Envelope} {d : Delivery} {respect : Bool} {q : Incoming}

/-- A signal that arrives is decoded as the message that was sent. -/
theorem decode_of_arrives (s : Service) (h : Arrives (p.outgoing (.signal e d respect)) q) :
    ∃ body, s.body q = .ok body
      ∧ Request.decode q.fields body = .ok (.custom
        ⟨p.sender, some e.id, d, respect, ⟨e.message.name, e.message.contentType, body⟩⟩) := by
  obtain ⟨body, hread, hcontent⟩ := h.body_received s
  exact ⟨body, hread, Http.decode_requested h.carries hcontent⟩

/-- A signal that arrives is received as the message that was sent. -/
theorem consensus_of_arrives (s : Service) (n : Node ω)
    (h : Arrives (p.outgoing (.signal e d respect)) q) : ∃ body, s.consensus n q
      = let delivered : Delivered :=
          ⟨p.sender, some e.id, d, respect, ⟨e.message.name, e.message.contentType, body⟩⟩
        ((n.receiveMessage delivered).1, responded (n.receiveMessage delivered).2) := by
  obtain ⟨body, hread, hdecode⟩ := decode_of_arrives s h
  refine ⟨body, ?_⟩
  rw [consensus_of_body n hread, dispatch, hdecode]
  rfl

/-- The signal that arrives with a call is the one that was sent. -/
theorem signalled?_of_arrives (s : Service) (hd : d.isOneWay = true)
    (h : Arrives (p.outgoing (.signal e d respect)) q) : signalled? s q = some e.id := by
  obtain ⟨body, hread, hdecode⟩ := decode_of_arrives s h
  rw [signalled?, hread]
  dsimp only
  rw [hdecode]
  exact if_pos hd

end

theorem success_of_interpret {p : Peer} {o : Outbound} {status : Nat}
    {headers : List (String × Bytes)} {body : Bytes} {complete : Bool} {a : o.Answer}
    (h : p.interpret o (.responds status headers body complete) = .ok a) :
    200 ≤ status ∧ status < 300 := by
  rw [Peer.interpret] at h
  split at h
  · assumption
  · cases h

/-- A signal whose sender learns that it was delivered is accepted by the node that served the
attempt. -/
theorem Served.accepted {ω' : Type} {e : Envelope} {d : Delivery} {m : Moment ω}
    {r : Round ω' (.signal e d)} (h : Served m r) (hd : d.isOneWay = true)
    {a : (Errand.signal e d).Answer} (hr : r.ending = .returned (.ok a)) :
    m.accepted? = some e.id := by
  cases h with
  | here hevent hending =>
      rw [Moment.accepted?, hevent, Node.accepted?, ← hending, hr]
      rfl
  | @posted p s q response headers body complete hevent harrives hresponse hending =>
      have hcall : Arrives (p.outgoing (.signal e d true)) q := harrives
      have hid := signalled?_of_arrives s hd hcall
      have hstatus := success_of_interpret (Ending.returned.inj (hending.symm.trans hr))
      have haccepting := isAccepting_respond hid hresponse hstatus
      rw [Moment.accepted?, hevent, Node.accepted?, hresponse, haccepting, hid]
      rfl
  | @admitted p s q response headers body complete hevent harrives hresponse hending =>
      have hcall : Arrives (p.outgoing (.signal e d true)) q := harrives
      have hid := signalled?_of_arrives s hd hcall
      have hstatus := success_of_interpret (Ending.returned.inj (hending.symm.trans hr))
      have haccepting := isAccepting_consensus hid hresponse hstatus
      rw [Moment.accepted?, hevent, Node.accepted?, hresponse, haccepting, hid]
      rfl

theorem exists_round_of_ok {ω' : Type} [Surroundings ω'] {bound : Bound} {x : Errand}
    {a : x.Answer} {rounds : Nat} {k : Node ω'}
    (h : (run bound x rounds k).2 = .returned (.ok a)) :
    ∃ r ∈ trail bound x rounds k, r.ending = .returned (.ok a) := by
  induction rounds generalizing k with
  | zero => cases h
  | succ rounds ih =>
      by_cases hagain : (k.roundFrom bound x).AsksAgain
      · rw [run_of_asksAgain hagain] at h
        obtain ⟨r, hr, hending⟩ := ih h
        rw [trail_of_asksAgain hagain]
        exact ⟨r, List.mem_cons_of_mem _ hr, hending⟩
      · obtain ⟨hrun, htrail⟩ := run_of_not_asksAgain hagain rounds
        rw [hrun] at h
        rw [htrail]
        exact ⟨_, List.mem_singleton_self _, h⟩

theorem run_of_sendSignal {ω' : Type} [Surroundings ω'] {rounds : Nat} {k : Node ω'}
    {bound : Bound} {message : Message} {d : Delivery}
    (h : (sendSignal rounds k bound message d).2 = .returned (.ok ())) :
    d.isOneWay = true
    ∧ (run bound (.signal (k.envelop message).1 d) rounds (k.envelop message).2).2
      = .returned (.ok ()) := by
  rw [sendSignal] at h
  split at h
  · cases h
  · rename_i hd
    split at h
    · cases h
    · exact ⟨by simpa using hd, h⟩

/-! ## Signals are taken once -/

/-- Along a calm history of a node without sightings, each signal that is accepted becomes exactly one
task, and one that is not accepted becomes none. So a sender that learns that its signal was delivered
by the node has it taken exactly once, however many attempts it made. -/
theorem signals_once {ω' : Type} [Surroundings ω'] (n : Node ω) (es : List (Event ω))
    (hempty : n.sightings.entries = [])
    (hcalm : Calm n.sightings.retention n.sightings.capacity (moments n es)) :
    (∀ id, spawnedIn id (moments n es) ≤ 1
      ∧ (spawnedIn id (moments n es) = 1 ↔ Accepts (moments n es) id))
    ∧ ∀ (k : Node ω') (bound : Bound) (rounds : Nat) (message : Message) (d : Delivery),
        (sendSignal rounds k bound message d).2 = .returned (.ok ()) →
        (∀ r ∈ trail bound (.signal (k.envelop message).1 d) rounds (k.envelop message).2,
          r.ending = .returned (.ok ()) → ∃ m ∈ moments n es, Served m r) →
        spawnedIn (k.envelop message).1.id (moments n es) = 1 := by
  have htracks : Tracks n.sightings.retention n.sightings.capacity ([] : List (Moment ω)) 0
      n.sightings := .nil hempty
  have hcounts : Counts (moments n es) :=
    counts_moments htracks .nil hcalm fun m _ => Nat.zero_le m.now
  refine ⟨fun id => ?_, fun k bound rounds message d hsent hserved => ?_⟩
  · rcases hcounts id with ⟨hid, hone⟩ | ⟨hid, hzero⟩
    · exact ⟨Nat.le_of_eq hone, fun _ => hid, fun _ => hone⟩
    · rw [hzero]
      exact ⟨Nat.zero_le 1, fun hone => absurd hone Nat.zero_ne_one, fun h => absurd h hid⟩
  · obtain ⟨hd, hrun⟩ := run_of_sendSignal hsent
    obtain ⟨r, hr, hending⟩ := exists_round_of_ok hrun
    obtain ⟨m, hm, hmserved⟩ := hserved r hr hending
    exact hcounts.one_of_accepts ⟨m, hm, hmserved.accepted hd hending⟩

/-! ## A door that is closed once -/

/-- A node that leads, with another one beside it, and a handler for the door. -/
def keeper : Node Rehearsal.World :=
  let engine := { Rehearsal.Engine.quiet with leader := some "a:1" }
  let world := { Rehearsal.World.start engine .scripted [] with
    handlers := [⟨"door", ["close"], [], false, none, none⟩] }
  { ((alone world "a:1" ⟨10, 10, []⟩ (.new default)).enlist "b:1").1 with
    handlers := Handlers.empty.add 0 }

/-- The other one, which hears of no response to its first two attempts. -/
def visitor : Node Rehearsal.World :=
  let engine := { Rehearsal.Engine.quiet with leader := some "a:1" }
  let lost := { Rehearsal.Outcome.plain with fault := some (.unreachable "a:1" .noConnection) }
  let world := (Rehearsal.World.start engine .scripted []).expect "a:1" [lost, lost]
  ((alone world "b:1" ⟨10, 10, []⟩ (.new default)).enlist "a:1").1

def closing : Message := ⟨"close", octetStream, .ofBytes []⟩

def closingSent : Outbound := .signal (visitor.envelop closing).1 .oneWay true

/-- The signal as it arrives at the keeper. -/
def closingPosted : Incoming :=
  ((Peer.mk "a:1" "/raft" "b:1" 1024).outgoing closingSent).posted "/raft"

def door : Service := ⟨"/raft", .exact "/raft", 1024⟩

def visits : List (Event Rehearsal.World) :=
  [.admitted door closingPosted, .trimmed, .admitted door closingPosted]

theorem closing_arrives :
    Arrives ((Peer.mk "a:1" "/raft" "b:1" 1024).outgoing closingSent) closingPosted :=
  Http.arrives_posted ..

theorem now_visits : ∀ m ∈ moments keeper visits, m.now = 0 := by
  have hadmitted : ∀ n : Node Rehearsal.World,
      (n.happen (.admitted door closingPosted)).world = n.world := by
    intro n
    obtain ⟨body, hconsensus⟩ := consensus_of_arrives door n closing_arrives
    rw [happen, hconsensus]
    exact world_receiveMessage n Delivery.noConfusion
  have htrimmed : ∀ n : Node Rehearsal.World, (n.happen .trimmed).world = n.world :=
    fun _ => rfl
  have hfirst : Surroundings.now keeper.world = 0 := rfl
  simp only [visits, moments, List.mem_cons, List.not_mem_nil, or_false]
  rintro m (rfl | rfl | rfl)
  · rw [Moment.now, Node.now, hfirst]
  · rw [Moment.now, Node.now, hadmitted, hfirst]
  · rw [Moment.now, Node.now, htrimmed, hadmitted, hfirst]

theorem calm_visits : Calm 10 10 (moments keeper visits) := by
  have hid : signalled? door closingPosted = some (visitor.envelop closing).1.id :=
    signalled?_of_arrives door rfl closing_arrives
  refine .of_short [(visitor.envelop closing).1.id] ?_ ?_ ?_ (by decide)
  · refine List.pairwise_of_forall_mem_list fun m hm m' hm' => ?_
    rw [now_visits m hm]
    exact Nat.zero_le _
  · intro m hm m' hm'
    rw [now_visits m hm, now_visits m' hm']
    decide
  · have hadmitted : ∀ {n : Node Rehearsal.World} {id : MessageId},
        n.accepted? (.admitted door closingPosted) = some id →
        id ∈ [(visitor.envelop closing).1.id] := by
      intro n id haccepted
      rw [Node.accepted?, hid] at haccepted
      split at haccepted
      · rw [← Option.some.inj haccepted]
        exact List.mem_singleton_self _
      · cases haccepted
    rintro id ⟨m, hm, haccepted⟩
    simp only [visits, moments, List.mem_cons, List.not_mem_nil, or_false] at hm
    rcases hm with rfl | rfl | rfl
    · exact hadmitted haccepted
    · cases haccepted
    · exact hadmitted haccepted

theorem closing_sent :
    (sendSignal 3 visitor .lifetime closing .oneWay).2 = .returned (.ok ()) := rfl

theorem closing_accepted :
    (door.consensus keeper closingPosted).2 = .returned ⟨204, [], [], none⟩ := by
  obtain ⟨body, hconsensus⟩ := consensus_of_arrives door keeper closing_arrives
  rw [hconsensus]
  rfl

/-- The visitor makes three attempts, and the door is closed once. -/
theorem closing_taken_once :
    keeper.sightings.entries = []
    ∧ Calm keeper.sightings.retention keeper.sightings.capacity (moments keeper visits)
    ∧ (sendSignal 3 visitor .lifetime closing .oneWay).2 = .returned (.ok ())
    ∧ spawnedIn (visitor.envelop closing).1.id (moments keeper visits) = 1 := by
  have hempty : keeper.sightings.entries = [] := rfl
  refine ⟨hempty, calm_visits, closing_sent, (signals_once keeper visits hempty calm_visits).2
    visitor .lifetime 3 closing .oneWay closing_sent fun r _ hending => ?_⟩
  have hanswered : r.ending = .returned ((Peer.mk "a:1" "/raft" "b:1" 1024).interpret closingSent
      (.responds 204 [] [] true)) := by
    rw [hending]
    rfl
  exact ⟨⟨keeper, .admitted door closingPosted⟩, List.mem_cons_self ..,
    .admitted rfl closing_arrives closing_accepted hanswered⟩

end Conclave.Node

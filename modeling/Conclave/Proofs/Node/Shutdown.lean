import Conclave.Proofs.Node.Signals
import Conclave.Proofs.Node.Starts
import Mathlib.Logic.Relation

/-!
# What a shutdown leaves behind

A shutdown looks at the lifetime, ends it, closes the registered members, waits until nothing runs
any more that was spawned, and forgets every sighting. Anything may happen at the node between two
of these steps and while it waits, and there may be any number of calls at once. So a call is cut
here into its steps (`Call`, `Proceeds`).

The lifetime does not begin again (`lifetime_happen`), and nothing is sighted in the future as
long as the clock is not put back (`sightedBefore_happen`). So whatever a call went through, it
leaves nothing behind when it returns (`Ended`). A call that finds the lifetime over returns at
once, though, and leaves everything as it is.
-/

namespace Conclave.Node

open Wire
open Http (Service Incoming)
open Relation (ReflTransGen)

variable {ω : Type}

/-! ## The parts of a shutdown -/

/-- Whether nothing runs any more that was spawned: no task, and not the loop. -/
def isAtRest (n : Node ω) : Bool := n.isQuiet && !n.isHalfway

def endLifetime (n : Node ω) : Node ω := { n with lifetimeOver := true }

theorem lifetimeOver_endLifetime (n : Node ω) : n.endLifetime.lifetimeOver = true := rfl

theorem tasks_endLifetime (n : Node ω) : n.endLifetime.tasks = n.tasks := rfl

theorem sightings_endLifetime (n : Node ω) : n.endLifetime.sightings = n.sightings := rfl

/-- Everything that is sighted was sighted at the present time or before it. -/
def SightedBefore [Surroundings ω] (n : Node ω) : Prop := ∀ e ∈ n.sightings.entries, e.2 ≤ n.now

def forget [Surroundings ω] (n : Node ω) : Node ω :=
  { n with sightings := n.sightings.trim n.now 0 }

/-- Closing members changes nothing but members. -/
theorem closeAll_eq (n : Node ω) : ∃ members, n.closeAll = { n with members := members } := by
  have hfold : ∀ (l : List (String × MemberId)) (m : Node ω), ∃ members,
      l.foldl (fun m e => m.updateMember e.2 Member.close) m = { m with members := members } := by
    intro l
    induction l with
    | nil => exact fun m => ⟨m.members, rfl⟩
    | cons e r ih => exact fun m => ih (m.updateMember e.2 Member.close)
  exact hfold n.registry.handles.entries n

variable [Surroundings ω]

theorem shutdown_of_lifetimeOver {n : Node ω} (h : n.lifetimeOver = true) :
    n.shutdown = (n, true) := by
  rw [shutdown, if_pos h]

theorem shutdown_eq {n : Node ω} (h : n.lifetimeOver = false) :
    n.shutdown =
      let m := n.endLifetime.closeAll.settle
      if m.isQuiet then (m.forget, true) else (m, false) := by
  rw [shutdown, if_neg (by rw [h]; exact Bool.false_ne_true)]
  rfl

/-- With all the units that it needs, the loop does not stop in the middle of a pass. -/
theorem follow_none (n : Node ω) :
    ∃ m : Node ω, n.follow none = (m, none) ∧ m.isHalfway = false := by
  have hpass : ∀ (s : Membership.Subscription) (desired : List String) (cs : List Chore)
      (m : Node ω), ∃ m', follows s (advance desired none cs m) = (m', none)
        ∧ m'.isHalfway = false := by
    intro s desired cs m
    rw [advance_none desired cs (m, Report.empty)]
    exact ⟨_, rfl, rfl⟩
  cases hfollower : n.follower with
  | idle s =>
      rw [follow, hfollower]
      exact ⟨n, rfl, by rw [isHalfway, hfollower]⟩
  | ended =>
      rw [follow, hfollower]
      exact ⟨n, rfl, by rw [isHalfway, hfollower]⟩
  | reconciling s p =>
      rw [follow, hfollower]
      exact hpass s p.desired p.chores _
  | following s =>
      have hstill : n.isHalfway = false := by rw [isHalfway, hfollower]
      rw [follow, hfollower]
      dsimp only
      split
      · exact ⟨_, rfl, rfl⟩
      · split
        · exact hpass ..
        · exact ⟨n, rfl, hstill⟩
        · exact ⟨_, rfl, rfl⟩

theorem isHalfway_turn (n : Node ω) : (n.turn none).isHalfway = false := by
  obtain ⟨n₁, hfirst, -⟩ := follow_none n
  obtain ⟨n₂, hsecond, -⟩ := follow_none n₁
  obtain ⟨n₃, hthird, hstill⟩ := follow_none n₂
  rw [turn, hfirst]
  dsimp only
  rw [hsecond]
  dsimp only
  rw [hthird]
  exact hstill

theorem isAtRest_settle {n : Node ω} (h : n.settle.isQuiet = true) :
    n.settle.isAtRest = true := by
  have hturned : n.settle.isHalfway = false := isHalfway_turn (n.turn none).runTasks
  rw [isAtRest, h, hturned]
  rfl

/-- Nothing proceeds at a node that was not started and has no task that is ready. -/
theorem settle_of_idle {n : Node ω} {s : Membership.Subscription} (hidle : n.follower = .idle s)
    (hready : ∀ t ∈ n.tasks, t.stage ≠ .ready) : n.settle = n := by
  have hturn : n.turn none = n := by
    have hfollow : n.follow none = (n, none) := by rw [follow, hidle]
    rw [turn, hfollow]
    dsimp only
    rw [hfollow]
    dsimp only
    rw [hfollow]
  rw [settle, hturn, runTasks_of_none_ready hready, hturn]

/-! ## The lifetime does not begin again -/

theorem lifetimeOver_acceptSignal (n : Node ω) (h : HandlerId) (d : Delivered) :
    (n.acceptSignal h d).1.lifetimeOver = n.lifetimeOver := by
  have hspawn : ∀ m : Node ω, (m.spawn h d).1.lifetimeOver = m.lifetimeOver := by
    intro m
    rw [spawn]
    split <;> rfl
  have haccepted := acceptSignal_accepted n h d
  generalize n.acceptSignal h d = r at haccepted ⊢
  cases haccepted with
  | repeated hid hr => rfl
  | nameless hid => exact hspawn n
  | fresh hid hr hm =>
      rw [hspawn, hm]

theorem lifetime_receiveMessage {n : Node ω} (h : n.lifetimeOver = true) (d : Delivered) :
    (n.receiveMessage d).1.lifetimeOver = true := by
  have hreceived := receiveMessage_received n d
  generalize n.receiveMessage d = r at hreceived ⊢
  cases hreceived with
  | stranger hs => exact h
  | misdirected hs hl => exact h
  | unsupported hs ht hf => exact h
  | questioned hs ht hf hd => exact (steady_answer kept_unit _ _ d).lifetime h
  | signalled hs ht hf hd => exact (lifetimeOver_acceptSignal ..).trans h

theorem lifetime_route {n : Node ω} (h : n.lifetimeOver = true) (request : Request) :
    (n.route request).1.lifetimeOver = true := by
  cases request with
  | custom d => exact lifetime_receiveMessage h d
  | requestVote sender vote => exact (steady_receiveVote kept_unit ..).lifetime h
  | appendEntries sender entries => exact (steady_receiveOrder kept_unit ..).lifetime h
  | installSnapshot sender header snapshot => exact (steady_receiveOrder kept_unit ..).lifetime h
  | resign sender => exact (steady_receiveOrder kept_unit ..).lifetime h
  | metadata sender =>
      have htold : Steady (fun _ => ()) n (n.tellMetadata sender).1 := steady_tellMetadata ..
      exact htold.lifetime h

theorem lifetime_consensus {n : Node ω} (h : n.lifetimeOver = true) (s : Service) (r : Incoming) :
    (s.consensus n r).1.lifetimeOver = true := by
  cases hb : s.body r with
  | error fault =>
      rw [Service.consensus, hb]
      exact h
  | ok body =>
      rw [consensus_of_body n hb, dispatch]
      cases Request.decode r.fields body with
      | error fault => exact h
      | ok request => exact lifetime_route h request

theorem lifetime_respond {n : Node ω} (h : n.lifetimeOver = true) (s : Service) (r : Incoming) :
    (s.respond n r).1.lifetimeOver = true := by
  rw [Service.respond]
  split
  · rw [Service.resource]
    split
    · exact h
    · split
      · exact h
      · exact lifetime_consensus h s r
  · exact h

theorem lifetime_attemptHere {n : Node ω} (h : n.lifetimeOver = true) (bound : Bound)
    (x : Errand) : (n.attemptHere bound x).1.lifetimeOver = true := by
  rw [attemptHere_of_isStopped (by rw [isStopped, h, Bool.or_true])]
  exact h

/-- Whatever happens, a lifetime that is over does not begin again. -/
theorem lifetime_happen {n : Node ω} (h : n.lifetimeOver = true) (e : Event ω) :
    (n.happen e).lifetimeOver = true := by
  cases e with
  | posted s r => exact lifetime_respond h s r
  | admitted s r => exact lifetime_consensus h s r
  | released gate => exact h
  | attempted bound x => exact lifetime_attemptHere h bound x
  | called bound id o => exact (steady_call ..).lifetime h
  | handlerAdded handler => exact h
  | handlerRemoved handler => exact h
  | wished c =>
      have hobeyed : Steady (fun _ => ()) n (n.obey c) := steady_obey n c
      exact hobeyed.lifetime h
  | shifted world => exact h
  | elapsed => exact (steady_elapse kept_unit n).lifetime h
  | begun givenUp => exact h
  | started => exact ((sustained_steady kept_unit).start n).lifetime h
  | reconciled desired => exact ((sustained_steady kept_unit).reconcile n desired).lifetime h
  | turned a => exact ((sustained_steady kept_unit).turn n a).lifetime h
  | tasksRun => exact (steady_runTasks kept_unit n).lifetime h
  | trimmed => exact h

/-! ## Nothing is sighted in the future -/

theorem sightedBefore_happen {n : Node ω} (h : n.SightedBefore) {e : Event ω}
    (hclock : n.now ≤ (n.happen e).now) : (n.happen e).SightedBefore := by
  intro entry hentry
  have hold : entry ∈ n.sightings.entries ∨ entry.2 = n.now := by
    have himpact := happen_impact n e
    generalize n.accepted? e = a at himpact
    cases himpact with
    | nothing hsee _ =>
        rw [hsee] at hentry
        exact .inl hentry
    | trimmed hsee _ =>
        rw [hsee] at hentry
        exact .inl (Sightings.mem_trim hentry).1
    | repeated _ hsee _ =>
        rw [hsee] at hentry
        exact .inl hentry
    | fresh _ hsee _ =>
        rw [hsee] at hentry
        exact (Sightings.mem_see hentry).imp_right (congrArg Prod.snd)
  rcases hold with hold | hnow
  · exact Nat.le_trans (h entry hold) hclock
  · exact hnow ▸ hclock

/-- What was sighted before is forgotten when nothing is kept. -/
theorem entries_forget {n : Node ω} (h : n.SightedBefore) : n.forget.sightings.entries = [] := by
  refine List.eq_nil_iff_forall_not_mem.mpr fun e he => ?_
  obtain ⟨hmem, hyoung⟩ := Sightings.mem_trim he
  exact absurd (h e hmem) (Nat.not_le_of_lt hyoung)

/-! ## Calls of a shutdown -/

/-- How far a call of a shutdown has come. -/
inductive Call where
  /-- It has found that the lifetime is not over. -/
  | begun
  /-- It has ended the lifetime. -/
  | ended
  /-- It has closed the members, and waits. -/
  | waiting
deriving DecidableEq, Repr

/-- A loop that runs beside the one that follows the channel: it trims the sightings, or it
watches a file. -/
inductive Helper where
  | trimmer
  | watcher
deriving DecidableEq, Repr

/-- A node, the helpers that run beside it, and the calls of a shutdown that have not returned. -/
structure Vigil (ω : Type) where
  node : Node ω
  helpers : List Helper
  calls : List Call

inductive Happening (ω : Type) where
  | happened (e : Event ω)
  | spawned (h : Helper)
  | stopped (h : Helper)
  | begun
  | ended
  | closed
  | returned
  | refused

/-- One step of a call, or something else that happens. Helpers stop once the lifetime is over, and
the clock is never put back. -/
inductive Proceeds : Vigil ω → Happening ω → Vigil ω → Prop where
  | happened {n : Node ω} {hs : List Helper} {cs : List Call} {e : Event ω} :
      n.now ≤ (n.happen e).now → Proceeds ⟨n, hs, cs⟩ (.happened e) ⟨n.happen e, hs, cs⟩
  | spawned {n : Node ω} {hs : List Helper} {cs : List Call} (h : Helper) :
      Proceeds ⟨n, hs, cs⟩ (.spawned h) ⟨n, h :: hs, cs⟩
  | stopped {n : Node ω} {hs ks : List Helper} {h : Helper} {cs : List Call} :
      n.lifetimeOver = true → Proceeds ⟨n, hs ++ h :: ks, cs⟩ (.stopped h) ⟨n, hs ++ ks, cs⟩
  | begun {n : Node ω} {hs : List Helper} {cs : List Call} : n.lifetimeOver = false →
      Proceeds ⟨n, hs, cs⟩ .begun ⟨n, hs, .begun :: cs⟩
  | ended {n : Node ω} {hs : List Helper} {ds es : List Call} :
      Proceeds ⟨n, hs, ds ++ .begun :: es⟩ .ended ⟨n.endLifetime, hs, ds ++ .ended :: es⟩
  | closed {n : Node ω} {hs : List Helper} {ds es : List Call} :
      Proceeds ⟨n, hs, ds ++ .ended :: es⟩ .closed ⟨n.closeAll, hs, ds ++ .waiting :: es⟩
  | returned {n : Node ω} {ds es : List Call} : n.isAtRest = true →
      Proceeds ⟨n, [], ds ++ .waiting :: es⟩ .returned ⟨n.forget, [], ds ++ es⟩
  | refused {n : Node ω} {hs : List Helper} {cs : List Call} : n.lifetimeOver = true →
      Proceeds ⟨n, hs, cs⟩ .refused ⟨n, hs, cs⟩

/-- What steps of any kind and in any order lead to. -/
def Reaches : Vigil ω → Vigil ω → Prop := ReflTransGen fun x y => ∃ m, Proceeds x m y

/-- What holds while calls are on their way. -/
structure Vigil.Sound (x : Vigil ω) : Prop where
  lifetime : ∀ c ∈ x.calls, c ≠ .begun → x.node.lifetimeOver = true
  sighted : x.node.SightedBefore

/-- Nothing is left of a node but its memory of members: its lifetime is over, the registered
members are closed, nothing runs that was spawned, and every sighting is forgotten. -/
structure Ended (n : Node ω) : Prop where
  lifetime : n.lifetimeOver = true
  closed : ∀ address id, n.registry.get? address = some id → n.isClosed id = true
  tasks : n.tasks = []
  loop : ∀ s, n.follower ≠ .following s ∧ ∀ p, n.follower ≠ .reconciling s p
  sightings : n.sightings.entries = []

omit [Surroundings ω] in
theorem isClosed_of_lifetimeOver {n : Node ω} (h : n.lifetimeOver = true) (id : MemberId) :
    n.isClosed id = true := by
  rw [isClosed, h, Bool.true_or]

omit [Surroundings ω] in
theorem tasks_of_isAtRest {n : Node ω} (h : n.isAtRest = true) : n.tasks = [] := by
  rw [isAtRest, isQuiet, Bool.and_eq_true, Bool.and_eq_true, List.isEmpty_iff] at h
  exact h.1.1

omit [Surroundings ω] in
theorem follower_of_isAtRest {n : Node ω} (h : n.isAtRest = true) (s : Membership.Subscription) :
    n.follower ≠ .following s ∧ ∀ p, n.follower ≠ .reconciling s p := by
  rw [isAtRest, isQuiet, isHalfway] at h
  refine ⟨fun hf => ?_, fun p hf => ?_⟩
  · rw [hf] at h
    simp at h
  · rw [hf] at h
    simp at h

theorem ended_forget {n : Node ω} (hlifetime : n.lifetimeOver = true) (hrest : n.isAtRest = true)
    (hsighted : n.SightedBefore) : Ended n.forget where
  lifetime := hlifetime
  closed := fun _ id _ => isClosed_of_lifetimeOver hlifetime id
  tasks := tasks_of_isAtRest hrest
  loop := follower_of_isAtRest hrest
  sightings := entries_forget hsighted

namespace Vigil

theorem Sound.initial {n : Node ω} (h : n.SightedBefore) : Sound ⟨n, [], []⟩ where
  lifetime := by
    intro c hc
    cases hc
  sighted := h

theorem Sound.lifetime_of_mem {n : Node ω} {hs : List Helper} {ds es : List Call} {c : Call}
    (h : Sound ⟨n, hs, ds ++ c :: es⟩) (hc : c ≠ .begun) : n.lifetimeOver = true :=
  h.lifetime c (List.mem_append_right ds (List.mem_cons_self ..)) hc

/-- No step breaks what holds while calls are on their way. -/
theorem Sound.proceeds {x y : Vigil ω} {m : Happening ω} (h : x.Sound) (hstep : Proceeds x m y) :
    y.Sound := by
  cases hstep with
  | happened hclock =>
      exact ⟨fun c hc hne => lifetime_happen (h.lifetime c hc hne) _,
        sightedBefore_happen h.sighted hclock⟩
  | spawned helper => exact ⟨h.lifetime, h.sighted⟩
  | stopped hover => exact ⟨h.lifetime, h.sighted⟩
  | begun hgoes =>
      refine ⟨fun c hc hne => ?_, h.sighted⟩
      rcases List.mem_cons.mp hc with rfl | hold
      · exact absurd rfl hne
      · exact h.lifetime c hold hne
  | ended => exact ⟨fun _ _ _ => rfl, h.sighted⟩
  | @closed n hs ds es =>
      have hover : n.lifetimeOver = true := h.lifetime_of_mem Call.noConfusion
      have hsighted : n.SightedBefore := h.sighted
      obtain ⟨members, hclosed⟩ := n.closeAll_eq
      rw [hclosed]
      exact ⟨fun _ _ _ => hover, hsighted⟩
  | @returned n ds es hrest =>
      have hover : n.lifetimeOver = true := h.lifetime_of_mem Call.noConfusion
      have hsighted : n.SightedBefore := h.sighted
      exact ⟨fun _ _ _ => hover, fun e he => hsighted e (Sightings.mem_trim he).1⟩
  | refused hover => exact h

theorem Sound.reaches {x y : Vigil ω} (h : x.Sound) (hway : Reaches x y) : y.Sound := by
  induction hway with
  | refl => exact h
  | tail _ hstep ih =>
      obtain ⟨m, hstep⟩ := hstep
      exact ih.proceeds hstep

end Vigil

/-- What a call leaves behind that waited for the end. -/
theorem Proceeds.ended_of_returned {x y : Vigil ω} (h : Proceeds x .returned y) (hx : x.Sound) :
    Ended y.node ∧ y.helpers = [] := by
  cases h with
  | returned hrest =>
      exact ⟨ended_forget (hx.lifetime_of_mem Call.noConfusion) hrest hx.sighted, rfl⟩

/-- The clock is not put back while a node settles. -/
structure Ticks (n : Node ω) : Prop where
  turned : n.now ≤ (n.turn none).now
  run : (n.turn none).now ≤ (n.turn none).runTasks.now
  settled : (n.turn none).runTasks.now ≤ n.settle.now

/-- A shutdown that nothing comes between is such a call. -/
theorem reaches_shutdown {n : Node ω} {cs : List Call} (h : n.lifetimeOver = false)
    (hticks : Ticks n.endLifetime.closeAll) (hreturned : n.shutdown.2 = true) :
    ∃ m, Reaches ⟨n, [], cs⟩ ⟨m, [], .waiting :: cs⟩
      ∧ Proceeds ⟨m, [], .waiting :: cs⟩ .returned ⟨n.shutdown.1, [], cs⟩ := by
  let m := n.endLifetime.closeAll
  have hquiet : m.settle.isQuiet = true := by
    rw [shutdown_eq h] at hreturned
    dsimp only at hreturned
    split at hreturned
    · assumption
    · cases hreturned
  have hshut : n.shutdown.1 = m.settle.forget := by
    rw [shutdown_eq h]
    exact congrArg Prod.fst (if_pos hquiet)
  have hbegun : Reaches ⟨n, [], cs⟩ ⟨m, [], .waiting :: cs⟩ :=
    ((ReflTransGen.single ⟨_, .begun h⟩).tail ⟨_, @Proceeds.ended _ _ _ _ [] cs⟩).tail
      ⟨_, @Proceeds.closed _ _ _ _ [] cs⟩
  have hsettled : Reaches (⟨m, [], .waiting :: cs⟩ : Vigil ω) ⟨m.settle, [], .waiting :: cs⟩ :=
    ((ReflTransGen.single ⟨.happened (.turned none), .happened hticks.turned⟩).tail
      ⟨.happened .tasksRun, .happened hticks.run⟩).tail
        ⟨.happened (.turned none), .happened hticks.settled⟩
  refine ⟨m.settle, hbegun.trans hsettled, ?_⟩
  rw [hshut]
  exact @Proceeds.returned _ _ _ [] cs (isAtRest_settle hquiet)

/-! ## What a shutdown leaves behind -/

/-- Whatever happens meanwhile, and however many calls there are: a call of a shutdown that found
that the lifetime was not over leaves nothing behind when it returns. A call that finds the
lifetime over, and with it all members closed, returns at once and leaves everything as it is. -/
theorem shutdown_leaves_nothing {n₀ : Node ω} (h₀ : n₀.SightedBefore) {x : Vigil ω}
    (h : Reaches ⟨n₀, [], []⟩ x) :
    (∀ y, Proceeds x .returned y → Ended y.node ∧ y.helpers = [])
    ∧ (x.node.lifetimeOver = false → Ticks x.node.endLifetime.closeAll →
        x.node.shutdown.2 = true → Ended x.node.shutdown.1)
    ∧ (∀ y, Proceeds x .refused y → y = x ∧ x.node.lifetimeOver = true
        ∧ ∀ address id, x.node.registry.get? address = some id → x.node.isClosed id = true)
    ∧ (x.node.lifetimeOver = true → x.node.shutdown = (x.node, true)) := by
  have hsound : x.Sound := (Vigil.Sound.initial h₀).reaches h
  refine ⟨fun y hy => hy.ended_of_returned hsound, fun hover hticks hreturned => ?_,
    fun y hy => ?_, shutdown_of_lifetimeOver⟩
  · obtain ⟨m, hway, hreturn⟩ := @reaches_shutdown _ _ _ [] hover hticks hreturned
    have halone : Vigil.Sound ⟨x.node, [], []⟩ := .initial hsound.sighted
    exact (hreturn.ended_of_returned (halone.reaches hway)).1
  · cases hy with
    | refused hover => exact ⟨rfl, hover, fun _ id _ => isClosed_of_lifetimeOver hover id⟩

/-- The keeper of the door is shut down while it closes the door. -/
theorem keeper_shut_down :
    keeper.SightedBefore
    ∧ Reaches ⟨keeper, [], []⟩ ⟨keeper.happen (.admitted door closingPosted), [], []⟩
    ∧ (keeper.happen (.admitted door closingPosted)).shutdown.2 = true
    ∧ Ended (keeper.happen (.admitted door closingPosted)).shutdown.1 := by
  have hnothing : keeper.SightedBefore := by
    intro e he
    cases he
  obtain ⟨body, hconsensus⟩ := consensus_of_arrives door keeper closing_arrives
  have hclock : keeper.now ≤ (keeper.happen (.admitted door closingPosted)).now := by
    rw [happen, hconsensus]
    exact Nat.le_of_eq rfl
  have hway : Reaches ⟨keeper, [], []⟩ ⟨keeper.happen (.admitted door closingPosted), [], []⟩ :=
    .single ⟨_, .happened hclock⟩
  have hover : (keeper.happen (.admitted door closingPosted)).lifetimeOver = false := by
    rw [happen, hconsensus]
    rfl
  have hticks : Ticks (keeper.happen (.admitted door closingPosted)).endLifetime.closeAll := by
    rw [happen, hconsensus]
    exact ⟨Nat.le_of_eq rfl, Nat.le_of_eq rfl, Nat.le_of_eq rfl⟩
  have hreturned : (keeper.happen (.admitted door closingPosted)).shutdown.2 = true := by
    rw [happen, hconsensus]
    rfl
  obtain ⟨-, hleaves, -, -⟩ := shutdown_leaves_nothing hnothing hway
  dsimp only at hleaves
  exact ⟨hnothing, hway, hreturned, hleaves hover hticks hreturned⟩

/-- A shutdown waits for a handler that does not return. -/
theorem shutdown_of_stuck {n : Node ω} {s : Membership.Subscription} {t : Task}
    (hover : n.lifetimeOver = false) (hidle : n.follower = .idle s) (htasks : n.tasks = [t])
    (hstuck : t.stage = .stuck) : ∃ m, n.shutdown = (m, false) ∧ m.lifetimeOver = true
    ∧ m.tasks = [t] ∧ m.sightings = n.sightings := by
  obtain ⟨members, hclosed⟩ := n.endLifetime.closeAll_eq
  let m := { n.endLifetime with members := members }
  have hsettled : m.settle = m := by
    refine settle_of_idle hidle fun u hu => ?_
    have hu : u ∈ n.tasks := hu
    rw [htasks] at hu
    rw [List.mem_singleton.mp hu, hstuck]
    exact Stage.noConfusion
  have hquiet : m.isQuiet = false := by
    have hmore : m.tasks = [t] := htasks
    rw [isQuiet, hmore]
    rfl
  refine ⟨m, ?_, rfl, htasks, rfl⟩
  rw [shutdown_eq hover]
  dsimp only
  rw [hclosed, hsettled]
  exact if_neg (by rw [hquiet]; exact Bool.false_ne_true)

/-- The keeper with a handler that never returns. -/
def sleeper : Node Rehearsal.World :=
  { keeper with
    world := { keeper.world with handlers := [⟨"door", ["close"], [], true, none, none⟩] } }

/-- The sleeper has begun to close the door. -/
def asleep : Node Rehearsal.World :=
  (sleeper.happen (.admitted door closingPosted)).happen .tasksRun

/-- Its lifetime is ended from outside. -/
def calledOff : Node Rehearsal.World := asleep.happen (.wished .endLifetime)

/-- A shutdown returns at once when the lifetime was ended before, or when another shutdown waits:
the handler has not finished, and the signal that it was given is still remembered. -/
theorem shutdown_leaves_handler :
    (calledOff.shutdown = (calledOff, true)
      ∧ calledOff.tasks.length = 1 ∧ calledOff.sightings.size = 1)
    ∧ asleep.shutdown.2 = false
    ∧ asleep.shutdown.1.shutdown = (asleep.shutdown.1, true)
    ∧ asleep.shutdown.1.tasks.length = 1 ∧ asleep.shutdown.1.sightings.size = 1 := by
  obtain ⟨body, hconsensus⟩ := consensus_of_arrives door sleeper closing_arrives
  have hasleep : asleep = (sleeper.receiveMessage ⟨"b:1", some (visitor.envelop closing).1.id,
      .oneWay, true, ⟨"close", octetStream, body⟩⟩).1.runTasks := by
    rw [asleep, happen, hconsensus]
    rfl
  have hidle : asleep.follower = .idle keeper.channel.subscribe := by
    rw [hasleep]
    rfl
  have hover : asleep.lifetimeOver = false := by
    rw [hasleep]
    rfl
  have hsize : asleep.sightings.size = 1 := by
    rw [hasleep]
    rfl
  obtain ⟨t, htasks, hstuck⟩ : ∃ t, asleep.tasks = [t] ∧ t.stage = .stuck := by
    rw [hasleep]
    exact ⟨_, rfl, rfl⟩
  have hoff : calledOff = asleep.endLifetime := rfl
  obtain ⟨m, hshut, hended, hleft, hsighted⟩ := shutdown_of_stuck hover hidle htasks hstuck
  rw [hoff, hshut, shutdown_of_lifetimeOver (lifetimeOver_endLifetime _),
    shutdown_of_lifetimeOver hended, tasks_endLifetime, htasks, hleft, sightings_endLifetime,
    hsighted, hsize]
  exact ⟨⟨rfl, rfl, rfl⟩, rfl, rfl, rfl, rfl⟩

end Conclave.Node

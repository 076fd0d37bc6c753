import Conclave.Proofs.Node.Signals
import Conclave.Proofs.Node.Switchboard
import Conclave.Proofs.Node.Ways

/-!
# Every dispatch keeps to its snapshot

Between the steps of the others a message keeps the snapshot that it took, and what it came to; a
snapshot is taken at a moment between the arrival of its message and its answer, and a change is
made at a moment between its beginning and its end (`Switchboard.Later`). All that happens at a node
goes this way: a message that a node receives takes its snapshot and looks there at once, and a
handler that is added or removed is published at once (`leads_happen`).

So the handler that receives a message is the one of the earliest addition that stood when the
snapshot was taken, and it receives the message when its task runs, even if it was removed in the
meantime (`Switchboard.Selects`).
-/

namespace Conclave.Node

open Wire
open Http (Service Incoming)
open Relation (ReflTransGen)

variable {ω : Type}

/-! ## What becomes of what is on its way -/

/-- Items in their places, later. -/
def Evolved {α : Type} (R : α → α → Prop) (xs ys : List α) : Prop :=
  ∀ (i : Nat) (a : α), xs[i]? = some a → ∃ b, ys[i]? = some b ∧ R a b

namespace Evolved

variable {α : Type} {R R' R'' : α → α → Prop} {xs ys zs : List α}

theorem append (hrefl : ∀ a, R a a) (xs added : List α) : Evolved R xs (xs ++ added) := by
  intro i a ha
  refine ⟨a, ?_, hrefl a⟩
  rw [List.getElem?_append_left (List.getElem?_eq_some_iff.mp ha).1]
  exact ha

theorem refl (hrefl : ∀ a, R a a) (xs : List α) : Evolved R xs xs := fun _ a ha => ⟨a, ha, hrefl a⟩

theorem trans (htrans : ∀ a b c, R a b → R' b c → R'' a c) (h : Evolved R xs ys)
    (h' : Evolved R' ys zs) : Evolved R'' xs zs := by
  intro i a ha
  obtain ⟨b, hb, hab⟩ := h i a ha
  obtain ⟨c, hc, hbc⟩ := h' i b hb
  exact ⟨c, hc, htrans a b c hab hbc⟩

theorem replaced (hrefl : ∀ a, R a a) {a b : α} (h : R a b) (xs ys : List α) :
    Evolved R (xs ++ a :: ys) (xs ++ b :: ys) := by
  have hset : xs ++ b :: ys = (xs ++ a :: ys).set xs.length b := by simp
  intro i c hc
  rw [hset]
  by_cases hi : xs.length = i
  · subst hi
    obtain rfl : a = c := by simpa using hc
    exact ⟨b, List.getElem?_set_self (List.getElem?_eq_some_iff.mp hc).1, h⟩
  · exact ⟨c, (List.getElem?_set_ne hi).trans hc, hrefl c⟩

end Evolved

/-- A place that is known stays the same, and one that becomes known lies between two moments. -/
structure Settles (first last : Nat) (p q : Option Nat) : Prop where
  stays : ∀ k, p = some k → q = some k
  within : p = none → ∀ k, q = some k → first ≤ k ∧ k ≤ last

namespace Settles

variable {first between last : Nat} {p q r : Option Nat}

theorem refl (first last : Nat) (p : Option Nat) : Settles first last p p where
  stays := fun _ h => h
  within := by
    rintro rfl k hk
    cases hk

theorem known {k : Nat} (hleast : first ≤ k) (hmost : k ≤ last) :
    Settles first last none (some k) where
  stays := by
    intro m hm
    cases hm
  within := by
    intro _ m hm
    obtain rfl := Option.some.inj hm
    exact ⟨hleast, hmost⟩

theorem trans (h : Settles first between p q) (h' : Settles between last q r)
    (hfirst : first ≤ between) (hlast : between ≤ last) : Settles first last p r where
  stays := fun k hk => h'.stays k (h.stays k hk)
  within := by
    intro hp k hk
    cases hq : q with
    | none =>
        obtain ⟨hleast, hmost⟩ := h'.within hq k hk
        exact ⟨Nat.le_trans hfirst hleast, hmost⟩
    | some m =>
        obtain ⟨hleast, hmost⟩ := h.within hp m hq
        obtain rfl := Option.some.inj ((h'.stays m hq).symm.trans hk)
        exact ⟨hleast, Nat.le_trans hmost hlast⟩

end Settles

namespace Revision

def change : Revision → Change
  | begun c _ | published c _ _ => c

/-- The place in the history of a change that was made. -/
def place? : Revision → Option Nat
  | begun _ _ => none
  | published _ place _ => some place

/-- A change is made at a moment between two others, or it is not made yet, or it was made. -/
structure Becomes (first last : Nat) (r r' : Revision) : Prop where
  change : r'.change = r.change
  place : Settles first last r.place? r'.place?
  made : r.place?.isSome = true → r' = r

theorem Becomes.refl (first last : Nat) (r : Revision) : Becomes first last r r :=
  ⟨rfl, .refl first last _, fun _ => rfl⟩

end Revision

/-- A message keeps its snapshot, which it takes at a moment between two others, and what it came
to. -/
structure Lookup.Becomes (first last : Nat) (l l' : Lookup) : Prop where
  delivered : l'.delivered = l.delivered
  place : Settles first last l.place? l'.place?
  done : ∀ d s, l = .done d s → l' = .done d s

theorem Lookup.Becomes.refl (first last : Nat) (l : Lookup) : Becomes first last l l :=
  ⟨rfl, .refl first last _, fun _ _ h => h⟩

namespace Switchboard

/-- A later state of a switchboard. The history and the lists that there were are the same. -/
structure Later (x y : Switchboard ω) : Prop where
  past : x.past <+: y.past
  lists : x.lists <+: y.lists
  revisions : Evolved (Revision.Becomes x.past.length y.past.length) x.revisions y.revisions
  lookups : Evolved (Lookup.Becomes x.past.length y.past.length) x.lookups y.lookups

namespace Later

variable {x y z : Switchboard ω}

theorem refl (x : Switchboard ω) : Later x x :=
  ⟨List.prefix_refl _, List.prefix_refl _, .refl (.refl _ _) _, .refl (.refl _ _) _⟩

theorem trans (h : Later x y) (h' : Later y z) : Later x z where
  past := h.past.trans h'.past
  lists := h.lists.trans h'.lists
  revisions := by
    refine .trans (fun a b c hab hbc => ⟨hbc.change.trans hab.change,
      hab.place.trans hbc.place h.past.length_le h'.past.length_le, fun hmade => ?_⟩)
      h.revisions h'.revisions
    obtain rfl := hab.made hmade
    exact hbc.made hmade
  lookups := by
    refine .trans (fun a b c hab hbc => ⟨hbc.delivered.trans hab.delivered,
      hab.place.trans hbc.place h.past.length_le h'.past.length_le, fun d s ha => ?_⟩)
      h.lookups h'.lookups
    exact hbc.done d s (hab.done d s ha)

variable [Surroundings ω]

theorem next (h : Next x y) : Later x y := by
  cases h with
  | begun c => exact { Later.refl _ with revisions := .append (.refl _ _) _ _ }
  | @published n past lists rs us ls c hs hhs =>
      refine ⟨List.prefix_append _ _, List.prefix_append _ _, .replaced (.refl _ _) ?_ rs us,
        .refl (.refl _ _) _⟩
      exact ⟨rfl, .known (Nat.le_refl _) (by simp), fun hmade => nomatch hmade⟩
  | reread hbase =>
      exact { Later.refl _ with
        revisions := .replaced (.refl _ _) ⟨rfl, .refl _ _ _, fun hmade => nomatch hmade⟩ _ _ }
  | admitted hs ht => exact { Later.refl _ with lookups := .append (.refl _ _) _ _ }
  | @snapped n past lists rs ls ms d =>
      have htaken : Settles past.length past.length none (some past.length) :=
        .known (Nat.le_refl _) (Nat.le_refl _)
      exact { Later.refl _ with
        lookups := .replaced (.refl _ _) ⟨rfl, htaken, fun d s hdone => nomatch hdone⟩ _ _ }
  | looked hhs =>
      exact { Later.refl _ with
        lookups := .replaced (.refl _ _) ⟨rfl, .refl _ _ _, fun d s hdone => nomatch hdone⟩ _ _ }
  | @ran n past lists rs ls ts us t htasks ht => exact { Later.refl ⟨n, past, lists, rs, ls⟩ with }
  | @aside n n' past lists rs ls haside => exact { Later.refl ⟨n, past, lists, rs, ls⟩ with }

theorem of_leads (h : Leads x y) : Later x y := by
  induction h with
  | refl => exact .refl x
  | tail _ hstep ih => exact ih.trans (.next hstep)

end Later

/-! ## What a node does -/

variable [Surroundings ω]

section

variable {n : Node (Recorded ω)} {past : List Change} {lists : List Handlers}
  {rs : List Revision} {ls : List Lookup}

omit [Surroundings ω] in
theorem Sound.list_current {x : Switchboard ω} (h : x.Sound) :
    x.lists[x.past.length]? = some x.node.handlers :=
  (h.lists _ _).mpr ⟨Nat.le_refl _, by rw [h.current, List.take_length]⟩

/-- A change that nobody disturbs is made at once. -/
theorem leads_change (h : Sound ⟨n, past, lists, rs, ls⟩) (c : Change) :
    Leads ⟨n, past, lists, rs, ls⟩
      ⟨{ n with handlers := n.handlers.apply c }, past ++ [c], lists ++ [n.handlers.apply c],
        rs ++ [.published c past.length (n.handlers.told c)], ls⟩ :=
  .tail (.single (.begun c)) (.published h.list_current)

/-- A message that nobody disturbs looks among the handlers that are registered when it arrives. -/
theorem leads_message (h : Sound ⟨n, past, lists, rs, ls⟩) {d : Delivered} {id : MemberId}
    (hs : n.registry.get? d.sender = some id) (ht : n.mayTake d) :
    Leads ⟨n, past, lists, rs, ls⟩
      ⟨(n.receiveMessage d).1, past, lists, rs,
        ls ++ [.done d ((n.touch id).select past.length n.handlers d)]⟩ := by
  rw [receiveMessage_of_admitted hs ht]
  exact ((ReflTransGen.single (.admitted hs ht)).tail .snapped).tail (.looked h.list_current)

end

/-- A node comes to another state by steps between which nothing is added or removed. -/
structure Goes (n n' : Node (Recorded ω)) : Prop where
  way : ∀ {past : List Change} {lists : List Handlers} {rs : List Revision} {ls : List Lookup},
    Sound ⟨n, past, lists, rs, ls⟩ →
    ∃ ls', Leads ⟨n, past, lists, rs, ls⟩ ⟨n', past, lists, rs, ls'⟩

namespace Goes

variable {n n' n'' : Node (Recorded ω)}

theorem of_aside (h : Aside n n') : Goes n n' := ⟨fun _ => ⟨_, .single (.aside h)⟩⟩

theorem of_aloof (h : Aloof n n') : Goes n n' := .of_aside h.aside

theorem trans (h : Goes n n') (h' : Goes n' n'') : Goes n n'' where
  way := by
    intro past lists rs ls hsound
    obtain ⟨ls', hway⟩ := h.way hsound
    obtain ⟨ls'', hway'⟩ := h'.way (hsound.leads hway)
    exact ⟨ls'', hway.trans hway'⟩

end Goes

theorem goes_receiveMessage (n : Node (Recorded ω)) (d : Delivered) :
    Goes n (n.receiveMessage d).1 := by
  cases hs : n.registry.get? d.sender with
  | none =>
      rw [receiveMessage, hs]
      exact .of_aloof (.refl n)
  | some id =>
      by_cases ht : n.mayTake d
      · exact ⟨fun hsound => ⟨_, leads_message hsound hs ht⟩⟩
      · have hreceived : (n.receiveMessage d).1 = n.touch id := by
          have hl : (d.respectLeadership && !(n.touch id).isLeader) = true :=
            by_contra fun hl => ht ((n.mayTake_iff d).mpr hl)
          rw [receiveMessage, hs]
          dsimp only
          rw [if_pos hl]
        rw [hreceived]
        exact .of_aloof (aloof_updateMember n id _)

theorem goes_dispatch (n : Node (Recorded ω)) (fields : Fields) (body : Body) :
    Goes n (n.dispatch fields body).1 := by
  rcases aloof_or_custom n fields body with haloof | ⟨d, hd⟩
  · exact .of_aloof haloof
  · rw [hd]
    exact goes_receiveMessage n d

theorem goes_dispatchHere (n : Node (Recorded ω)) (x : Errand) : Goes n (n.dispatchHere x).1 := by
  have hreceived := goes_receiveMessage n (x.delivered n.registry.localAddress)
  rw [dispatchHere]
  generalize n.receiveMessage (x.delivered n.registry.localAddress) = out at hreceived ⊢
  obtain ⟨m, ending⟩ := out
  cases ending with
  | never => exact hreceived
  | returned result =>
      cases result with
      | error fault => exact hreceived
      | ok reply =>
          dsimp only
          split
          · exact hreceived.trans (.of_aside (aside_release m _))
          · exact hreceived

/-- When tasks run, they run one after the other. -/
theorem goes_runTasks (n : Node (Recorded ω)) : Goes n n.runTasks := by
  -- induction on the tasks that are ready, which run from the first to the last
  generalize hready : n.tasks.filter (·.stage = .ready) = ts
  induction ts generalizing n with
  | nil =>
      have hnone : ∀ t ∈ n.tasks, t.stage ≠ .ready := by
        intro t ht
        simpa using List.filter_eq_nil_iff.mp hready t ht
      rw [runTasks_of_none_ready hnone]
      exact .of_aloof (.refl n)
  | cons t rest ih =>
      obtain ⟨before, behind, htasks, hbefore, ht, hbehind⟩ := List.filter_eq_cons_iff.mp hready
      have ht : t.stage = .ready := by simpa using ht
      have hbefore : ∀ u ∈ before, u.stage ≠ .ready := fun u hu => by simpa using hbefore u hu
      have hlater : ({ n with tasks := before ++ behind }.runTask t).tasks.filter
          (·.stage = Stage.ready) = rest := by
        rw [tasks_runTask, ready_append_residue _ t hbefore, hbehind]
      have hfirst : Goes n ({ n with tasks := before ++ behind }.runTask t) :=
        ⟨fun _ => ⟨_, .single (.ran htasks ht)⟩⟩
      rw [runTasks_of_ready htasks ht hbefore]
      exact hfirst.trans (ih _ hlater)

theorem goes_upheld : Upheld (Goes (ω := ω)) where
  refl := fun n => .of_aloof (.refl n)
  trans := .trans
  turn := fun n a => .of_aloof (sustained_aloof.turn n a)
  runTasks := goes_runTasks
  elapse := fun n => .of_aloof (aloof_elapse n)
  dispatchHere := goes_dispatchHere
  transmit := fun ht => .of_aloof (aloof_after _ (given_transmit ht) _)
  learn := fun n id _ _ => .of_aloof (aloof_updateMember n id _)
  envelop := fun _ _ => .of_aloof ⟨rfl, rfl, rfl⟩

theorem goes_consensus (s : Service) (n : Node (Recorded ω)) (r : Incoming) :
    Goes n (s.consensus n r).1 := by
  cases hb : s.body r with
  | error fault =>
      rw [Service.consensus, hb]
      exact .of_aloof (.refl n)
  | ok body =>
      rw [consensus_of_body n hb]
      exact goes_dispatch n r.fields body

theorem goes_respond (s : Service) (n : Node (Recorded ω)) (r : Incoming) :
    Goes n (s.respond n r).1 := by
  have hself : Goes n n := .of_aloof (.refl n)
  rw [Service.respond, Service.resource]
  split
  · split
    · exact hself
    · split
      · exact hself
      · exact goes_consensus s n r
  · exact hself

theorem goes_shutdown (n : Node (Recorded ω)) : Goes n n.shutdown.1 := by
  have hover : Aloof n { n with lifetimeOver := true } := ⟨rfl, rfl, rfl⟩
  have hclosed : Aloof n { n with lifetimeOver := true }.closeAll :=
    hover.trans (sustained_foldl Aloof.refl Aloof.trans
      (fun m (e : String × MemberId) => aloof_updateMember m e.2 Member.close) _ _)
  have hsettled := (Goes.of_aloof hclosed).trans (goes_upheld.settle _)
  rw [shutdown]
  split
  · exact goes_upheld.refl n
  · dsimp only
    split
    · exact hsettled.trans (.of_aloof ⟨rfl, rfl, rfl⟩)
    · exact hsettled

/-- Nobody else keeps the record. -/
def Records (n : Node (Recorded ω)) : Event (Recorded ω) → Prop
  | .shifted world => world.asked = n.world.asked
  | _ => True

/-- The changes of the handlers that an event makes. -/
def changes : Event (Recorded ω) → List Change
  | .handlerAdded g => [.add g]
  | .handlerRemoved g => [.remove g]
  | _ => []

/-- All that happens at a node happens at its switchboard. -/
theorem leads_happen {x : Switchboard ω} (h : x.Sound) {e : Event (Recorded ω)}
    (he : Records x.node e) :
    ∃ y, Leads x y ∧ y.node = x.node.happen e ∧ y.past = x.past ++ changes e := by
  have hgoes : ∀ {m : Node (Recorded ω)}, Goes x.node m →
      ∃ y, Leads x y ∧ y.node = m ∧ y.past = x.past ++ [] := by
    intro m hm
    obtain ⟨ls, hway⟩ := hm.way h
    exact ⟨_, hway, rfl, (List.append_nil _).symm⟩
  cases e with
  | posted s r => exact hgoes (goes_respond s _ r)
  | admitted s r => exact hgoes (goes_consensus s _ r)
  | released gate => exact hgoes (.of_aside (aside_release _ gate))
  | attempted bound e => exact hgoes (goes_upheld.attemptHere _ bound e)
  | called bound id o => exact hgoes (goes_upheld.call _ bound id o)
  | handlerAdded g => exact ⟨_, leads_change h (.add g), rfl, rfl⟩
  | handlerRemoved g => exact ⟨_, leads_change h (.remove g), rfl, rfl⟩
  | wished c => exact hgoes (.of_aloof (aloof_obey _ c))
  | shifted world => exact hgoes (.of_aloof ⟨rfl, rfl, congrArg (List.filter Asked.isGiven) he⟩)
  | elapsed => exact hgoes (.of_aloof (aloof_elapse _))
  | begun givenUp => exact hgoes (.of_aloof ⟨rfl, rfl, rfl⟩)
  | started => exact hgoes (.of_aloof (sustained_aloof.start _))
  | reconciled desired => exact hgoes (.of_aloof (sustained_aloof.reconcile _ desired))
  | turned a => exact hgoes (.of_aloof (sustained_aloof.turn _ a))
  | tasksRun => exact hgoes (goes_runTasks _)
  | trimmed => exact hgoes (.of_aloof ⟨rfl, rfl, rfl⟩)

/-! ## Which handler is selected -/

/-- What holds of the handlers of a node, of those who change them and of the messages for them. -/
structure Selects (x : Switchboard ω) : Prop where
  /-- Registered are the additions that stand, in their order, and as many are counted. -/
  registered : x.node.handlers.registered = registrations x.past
  size : x.node.handlers.size = (registrations x.past).length
  /-- So it was after every change. -/
  lists : ∀ (k : Nat) (hs : Handlers), x.lists[k]? = some hs
    ↔ k ≤ x.past.length ∧ hs.registered = registrations (x.past.take k)
  added : ∀ (g : HandlerId) (place : Nat) (told : Bool),
    Revision.published (.add g) place told ∈ x.revisions →
    registrations (x.past.take (place + 1)) = registrations (x.past.take place) ++ [g]
  /-- A removal took away all additions of its handler, and nothing else. Whoever asked for it was
  told whether there was one. -/
  removed : ∀ (g : HandlerId) (place : Nat) (told : Bool),
    Revision.published (.remove g) place told ∈ x.revisions →
    registrations (x.past.take (place + 1)) = (registrations (x.past.take place)).filter (· ≠ g)
    ∧ (told = true ↔ g ∈ registrations (x.past.take place))
  /-- A message came to the handler that its snapshot asks for, or to none. -/
  selected : ∀ (d : Delivered) (s : Selection), Lookup.done d s ∈ x.lookups →
    s.place ≤ x.past.length ∧ s.Sound (x.past.take s.place) d
  /-- One that has its snapshot finds it there, and that handler is given the message or will be
  given it by a task. -/
  looks : ∀ (ls ms : List Lookup) (d : Delivered) (place : Nat),
    x.lookups = ls ++ .looking d place :: ms →
    ∃ (n : Node (Recorded ω)) (s : Selection), s.place = place
      ∧ Next x { x with node := n, lookups := ls ++ .done d s :: ms }
      ∧ n.dealt.Perm (s.owed.toList ++ x.node.dealt)
  /-- A task gives its signal to its handler, whoever is registered when it runs. -/
  runs : ∀ (ts us : List Task) (t : Task), x.node.tasks = ts ++ t :: us → t.stage = .ready →
    ∃ n : Node (Recorded ω), Next x { x with node := n }
      ∧ n.world.given
        = x.node.world.given ++ [.signalled t.handler t.delivered.sender t.delivered.message]
  /-- What handlers were given, or will be given by tasks, is what messages are owed, each once. -/
  dealt : x.node.dealt.Perm (x.lookups.filterMap Lookup.owed?)
  /-- No step changes a snapshot, what came of a message, or what was told about a change. -/
  later : ∀ y : Switchboard ω, Leads x y → x.Later y
  /-- A message that the node receives takes its snapshot at once. -/
  received : ∀ (d : Delivered) (id : MemberId), x.node.registry.get? d.sender = some id →
    x.node.mayTake d → ∃ s : Selection, s.place = x.past.length
      ∧ s.ending = (x.node.receiveMessage d).2
      ∧ Leads x { x with node := (x.node.receiveMessage d).1, lookups := x.lookups ++ [.done d s] }
  /-- Messages that the node takes from itself go the same way. -/
  sent : ∀ (rounds : Nat) (bound : Bound) (m : Message) (d : Delivery),
    (∃ ls, Leads x { x with node := (sendSignal rounds x.node bound m d).1, lookups := ls })
    ∧ ∃ ls, Leads x { x with node := (sendRequest rounds x.node bound m).1, lookups := ls }
  /-- Of all that happens, only additions and removals are changes. -/
  happens : ∀ e, Records x.node e →
    ∃ y, Leads x y ∧ y.node = x.node.happen e ∧ y.past = x.past ++ changes e
  shut : ∃ ls, Leads x { x with node := x.node.shutdown.1, lookups := ls }

omit [Surroundings ω] in
/-- A change that was published is the one that its place in the history names. -/
theorem Sound.take_succ {x : Switchboard ω} (h : x.Sound) {c : Change} {place : Nat} {told : Bool}
    (hr : .published c place told ∈ x.revisions) :
    x.past.take (place + 1) = x.past.take place ++ [c] := by
  obtain ⟨hplace, -⟩ := h.revisions _ hr
  rw [List.take_add_one, hplace]
  rfl

/-- However changes of the handlers and messages interleave, each message comes to the handler of the
earliest addition that stood when its snapshot was taken and that supports it. -/
theorem handlers_selected {world : ω} {address : String} {sightings : Sightings}
    {channel : Membership.Channel} {x : Switchboard ω}
    (h : Leads (.opened (alone ⟨world, []⟩ address sightings channel)) x) : x.Selects := by
  have hsound : x.Sound := (sound_opened rfl rfl rfl).leads h
  have hregistered : x.node.handlers.registered = registrations x.past := by
    rw [hsound.current, Handlers.registered_replay]
  refine
    { registered := hregistered
      size := congrArg List.length hregistered
      lists := fun k hs => ?_
      added := fun g place told hr => ?_
      removed := fun g place told hr => ⟨?_, ?_⟩
      selected := fun d s hdone => hsound.lookups _ hdone
      looks := fun ls ms d place hls => ?_
      runs := fun ts us t htasks ht =>
        ⟨_, .ran htasks ht, (runTask_given { x.node with tasks := ts ++ us } t).2⟩
      dealt := hsound.dealt
      later := fun y => .of_leads
      received := fun d id hs ht => ⟨(x.node.touch id).select x.past.length x.node.handlers d, rfl,
        ?_, leads_message hsound hs ht⟩
      sent := fun rounds bound m d => ⟨(goes_upheld.sendSignal rounds x.node bound m d).way hsound,
        (goes_upheld.sendRequest rounds x.node bound m).way hsound⟩
      happens := fun e => leads_happen hsound
      shut := (goes_shutdown x.node).way hsound }
  · rw [hsound.lists, ← Handlers.registered_replay]
    exact and_congr_right fun _ => ⟨congrArg Handlers.registered, congrArg Handlers.mk⟩
  · rw [hsound.take_succ hr, registrations_add]
  · rw [hsound.take_succ hr, registrations_remove]
  · obtain ⟨-, htold⟩ := hsound.revisions _ hr
    exact (htold g rfl).trans mem_registrations.symm
  · obtain ⟨n, past, lists, rs, ls'⟩ := x
    obtain rfl : ls' = ls ++ .looking d place :: ms := hls
    have hplace : place ≤ past.length :=
      hsound.lookups (.looking d place) (List.mem_append_right _ (List.mem_cons_self ..))
    have hhs := (hsound.lists place _).mpr ⟨hplace, rfl⟩
    exact ⟨_, n.select place _ d, rfl, .looked hhs, (n.deliver_dealt place _ d).2⟩
  · rw [receiveMessage_of_admitted hs ht]
    rfl

end Switchboard

/-! ## A porter who is dismissed -/

/-- A node that leads, with a door and a bell. The bell is rung, too, when the door is closed. -/
def house : Node (Recorded Rehearsal.World) :=
  let engine := { Rehearsal.Engine.quiet with leader := some "a:1" }
  let world := { Rehearsal.World.start engine .scripted [] with
    handlers := [⟨"door", ["close"], [], false, none, none⟩,
      ⟨"bell", ["ring", "close"], [], false, none, none⟩] }
  alone ⟨world, []⟩ "a:1" ⟨10, 10, []⟩ (.new default)

/-- The door is to be closed. -/
def closure : Delivered := ⟨"b:1", none, .oneWay, false, closing⟩

def unheard : Delivered := ⟨"b:1", none, .oneWay, false, { closing with name := "open" }⟩

namespace Switchboard

/-- The house knows a neighbour, the door was added twice and the bell in between. -/
def staffed : Switchboard Rehearsal.World where
  node := { (house.enlist "b:1").1 with handlers := ⟨[0, 1, 0]⟩ }
  past := [.add 0, .add 1, .add 0]
  lists := [⟨[]⟩, ⟨[0]⟩, ⟨[0, 1]⟩, ⟨[0, 1, 0]⟩]
  revisions := [.published (.add 0) 0 true, .published (.add 1) 1 true,
    .published (.add 0) 2 true]
  lookups := []

/-- The neighbour's message has its snapshot when the door is removed. -/
def dismissed : Switchboard Rehearsal.World where
  node := { staffed.node.touch 1 with handlers := ⟨[1]⟩ }
  past := staffed.past ++ [.remove 0]
  lists := staffed.lists ++ [⟨[1]⟩]
  revisions := staffed.revisions ++ [.published (.remove 0) 3 true]
  lookups := [.looking closure 3]

/-- The message looked for its handler. -/
def assigned : Switchboard Rehearsal.World :=
  { dismissed with
    node := (dismissed.node.deliver ⟨[0, 1, 0]⟩ closure).1
    lookups := [.done closure (dismissed.node.select 3 ⟨[0, 1, 0]⟩ closure)] }

theorem leads_dismissed : Leads (.opened house) dismissed := by
  have hopened : (opened house).Sound := sound_opened rfl rfl rfl
  have hknown : Leads (opened house) ⟨(house.enlist "b:1").1, [], [.empty], [], []⟩ :=
    .single (.aside (aloof_enlist house "b:1").aside)
  have hdoor := hknown.trans (leads_change (hopened.leads hknown) (.add 0))
  have hbell := hdoor.trans (leads_change (hopened.leads hdoor) (.add 1))
  have hstaffed : Leads (.opened house) staffed :=
    hbell.trans (leads_change (hopened.leads hbell) (.add 0))
  have hadmitted : Next staffed
      { staffed with node := staffed.node.touch 1, lookups := [.admitted closure] } :=
    .admitted rfl Bool.noConfusion
  have hsnapped : Next
      { staffed with node := staffed.node.touch 1, lookups := [.admitted closure] }
      { staffed with node := staffed.node.touch 1, lookups := [.looking closure 3] } :=
    @Next.snapped _ _ _ _ _ _ [] [] closure
  have hlooking := (hstaffed.tail hadmitted).tail hsnapped
  exact hlooking.trans (leads_change (hopened.leads hlooking) (.remove 0))

/-- The door is closed though it was removed in the meantime. The next message rings the bell, and
there is nobody to open the door. -/
theorem dismissed_door_closed :
    Leads (.opened house) dismissed
    ∧ Leads dismissed assigned
    ∧ assigned.Selects
    ∧ assigned.node.handlers.registered = [1]
    ∧ assigned.node.runTasks.world.given = [.signalled 0 "b:1" closing]
    ∧ (assigned.node.receiveMessage closure).1.runTasks.world.given
      = [.signalled 0 "b:1" closing, .signalled 1 "b:1" closing]
    ∧ (assigned.node.receiveMessage unheard).2
      = .returned (.ok (.status .notImplemented)) := by
  have hassigned : Leads dismissed assigned :=
    .single (@Next.looked _ _ dismissed.node _ _ _ [] [] closure 3 ⟨[0, 1, 0]⟩ rfl)
  exact ⟨leads_dismissed, hassigned, handlers_selected (leads_dismissed.trans hassigned), rfl, rfl,
    rfl, rfl⟩

end Switchboard

end Conclave.Node

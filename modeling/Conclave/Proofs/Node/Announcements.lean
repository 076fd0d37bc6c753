import Conclave.Proofs.Node.Following
import Conclave.Proofs.Node.Underway
import Mathlib.Data.Finset.Basic

/-!
# What the listeners hear of the passes

A listener that was there before the first pass hears, for each pass, of the members that its report
calls removed and then of those that it calls added (`Told`). The events can be replayed: from the
local address alone they lead to the registered addresses, and no event on the way is one that makes
no sense (`MemberEvent.replay`). In the middle of a pass the registry may be ahead of what was heard
by one event (`Juncture.pending`), which is the one that is about to be announced; so when an event
is heard, the registry shows it already.
-/

namespace Conclave.Node

variable {ω : Type}

/-! ## Reports as events -/

/-- The events of a pass, as its report has them. -/
def Report.events (r : Report) : List MemberEvent := r.removed.map .removed ++ r.added.map .added

/-- The addresses after an event. A member is not added twice, removed only when it is there, and
the local one is never spoken of. -/
def MemberEvent.replay (home : String) (s : Finset String) : MemberEvent → Option (Finset String)
  | .added a => if a = home ∨ a ∈ s then none else some (insert a s)
  | .removed a => if a = home ∨ a ∉ s then none else some (s.erase a)

/-- The addresses after several events. -/
def replay (home : String) (s : Finset String) (es : List MemberEvent) : Option (Finset String) :=
  es.foldlM (MemberEvent.replay home) s

theorem replay_concat (home : String) (s : Finset String) (es : List MemberEvent)
    (e : MemberEvent) : replay home s (es ++ [e]) = (replay home s es).bind (e.replay home) := by
  rw [replay, List.foldlM_append, replay]
  cases es.foldlM (MemberEvent.replay home) s with
  | none => rfl
  | some s' => simp

theorem events_note_removed {r : Report} (h : r.added = []) (a : String) :
    (r.note (.changed (.removed a))).events = r.events ++ [.removed a] := by
  simp [Report.note, Report.events, h]

theorem events_note_added (r : Report) (a : String) :
    (r.note (.changed (.added a))).events = r.events ++ [.added a] := by
  simp [Report.note, Report.events]

theorem events_note_failed (r : Report) (a : String) : (r.note (.failed a)).events = r.events := rfl

/-! ## What was heard -/

variable [Surroundings ω]

/-- Since some moment between two passes the listeners have heard what the reports tell. -/
structure Told (k : Minutes) (x : Situation ω) : Prop where
  first : ∀ u ∈ x.underway, u.juncture.IsFirst → u.report.added = []
  heard : ∃ since, x.minutes.past = k.past ++ since
    ∧ x.minutes.heard = k.heard ++ since.flatMap (fun p => p.2.events)
      ++ x.underway.elim [] fun u => u.report.events

/-- A silent act does not change what the listeners are to hear. -/
theorem report_deed {n n' : Node ω} {d : Membership} {r : Report} {j j' : Juncture} {e : Effect}
    (h : j.IsFirst → r.added = []) (hdeed : Deed n d j n' e j') :
    (j'.IsFirst → (r.note e).added = []) ∧ (r.note e).events = r.events := by
  cases hdeed with
  | refused => exact ⟨fun hfirst => hfirst.elim, events_note_failed r _⟩
  | turned => exact ⟨fun hfirst => hfirst.elim, rfl⟩
  | present => exact ⟨fun hfirst => hfirst.elim, rfl⟩
  | made => exact ⟨fun hfirst => hfirst.elim, rfl⟩
  | preceded => exact ⟨fun hfirst => hfirst.elim, rfl⟩
  | registered => exact ⟨fun hfirst => hfirst.elim, rfl⟩
  | _ => exact ⟨fun _ => h trivial, rfl⟩

theorem told_next {k : Minutes} {x y : Situation ω} (h : Told k x) (hnext : Next x y) :
    Told k y := by
  obtain ⟨hfirst, since, hpast, hheard⟩ := h
  cases hnext with
  | requested d => exact ⟨hfirst, since, hpast, hheard⟩
  | begun hwaiting =>
      refine ⟨?_, since, hpast, hheard⟩
      intro u hu _
      obtain rfl := Option.some.inj hu
      rfl
  | done hdeed =>
      obtain ⟨hadded, hevents⟩ := report_deed (hfirst _ rfl) hdeed
      refine ⟨?_, since, hpast, ?_⟩
      · intro u hu
        obtain rfl := Option.some.inj hu
        exact hadded
      · rw [Option.elim_some] at hheard ⊢
        rw [hevents]
        exact hheard
  | @told n k' d b r j j' e htells =>
      rw [Option.elim_some] at hheard
      have hnoted : (r.note (.changed e)).events = r.events ++ [e] := by
        cases htells with
        | parted => exact events_note_removed (hfirst _ rfl trivial) _
        | joined => exact events_note_added r _
      refine ⟨?_, since, hpast, ?_⟩
      · intro u hu hj
        obtain rfl := Option.some.inj hu
        cases htells with
        | @parted a l => exact hfirst ⟨d, b, r, .parted a l⟩ rfl trivial
        | joined => exact hj.elim
      · rw [Option.elim_some, hnoted, Minutes.hear, hheard, List.append_assoc]
  | @finished n k' d b r =>
      refine ⟨(fun u hu => absurd hu (Option.not_mem_none u)), since ++ [(d, r)], ?_, ?_⟩
      · rw [Minutes.conclude, hpast, List.append_assoc]
      · have hpass : k'.heard = k.heard ++ since.flatMap (fun p => p.2.events) ++ r.events := hheard
        simp [Minutes.conclude, hpass]
  | aside hapart => exact ⟨hfirst, since, hpast, hheard⟩

theorem told_of_leads {k : Minutes} {x y : Situation ω} (h : Told k x) (hleads : Leads x y) :
    Told k y := by
  induction hleads with
  | refl => exact h
  | tail _ hnext ih => exact told_next ih hnext

omit [Surroundings ω] in
theorem told_rest (n : Node ω) (k : Minutes) : Told k ⟨n, none, k⟩ :=
  ⟨(fun u hu => absurd hu (Option.not_mem_none u)), [], (List.append_nil _).symm, by simp⟩

/-- The listeners hear of a whole pass what it reports. -/
theorem leads_reconcile_heard (n : Node ω) (k : Minutes) (d : Membership) :
    Leads ⟨n, none, k⟩ ⟨(n.reconcile d).1, none,
      { k with
        asked := k.asked ++ [d]
        past := k.past ++ [(d, (n.reconcile d).2)]
        heard := k.heard ++ (n.reconcile d).2.events }⟩ := by
  obtain ⟨heard, hleads⟩ := leads_reconcile (k := k) n d
  obtain ⟨-, since, hpast, hheard⟩ := told_of_leads (told_rest n k) hleads
  obtain rfl := List.append_cancel_left hpast
  have hexact : heard = k.heard ++ (n.reconcile d).2.events := by
    simpa using hheard
  rw [← hexact]
  exact hleads

/-! ## Replaying what was heard -/

/-- The event that the registry shows and the listeners have not heard of. -/
def Juncture.pending : Juncture → List MemberEvent
  | .unclosed _ a _ | .parted a _ => [.removed a]
  | .joined a _ => [.added a]
  | _ => []

def Situation.pending (x : Situation ω) : List MemberEvent :=
  x.underway.elim [] fun u => u.juncture.pending

/-- From the local address alone the events lead to the registered addresses. -/
def Situation.Replays (address : String) (x : Situation ω) : Prop :=
  replay address {address} (x.minutes.heard ++ x.pending)
    = some x.node.registry.addresses.toFinset

omit [Surroundings ω] in
theorem mem_toFinset_addresses (r : Registry) (a : String) :
    a ∈ r.addresses.toFinset ↔ r.contains a = true := by
  rw [List.mem_toFinset, Registry.mem_addresses]

omit [Surroundings ω] in
/-- A registered member that is not the local one can be removed from the set. -/
theorem replay_strike {n : Node ω} {a : String} (hlocal : a ≠ n.registry.localAddress)
    (hthere : n.registry.contains a = true) :
    (MemberEvent.removed a).replay n.registry.localAddress n.registry.addresses.toFinset
      = some (n.strike a).registry.addresses.toFinset := by
  have hmem : a ∈ n.registry.addresses.toFinset := (mem_toFinset_addresses _ a).mpr hthere
  have hset : n.registry.addresses.toFinset.erase a
      = (n.strike a).registry.addresses.toFinset := by
    ext c
    rw [Finset.mem_erase, mem_toFinset_addresses, mem_toFinset_addresses]
    constructor
    · rintro ⟨hca, hc⟩
      rw [← Registry.isSome_get?, get?_strike hlocal, if_neg hca]
      exact hc
    · exact contains_strike hlocal
  rw [MemberEvent.replay, if_neg (by simp [hlocal, hmem]), hset]

omit [Surroundings ω] in
/-- An address that is not registered can be added to the set. -/
theorem replay_enroll {n : Node ω} {a : String} (hlocal : a ≠ n.registry.localAddress)
    (habsent : n.registry.contains a = false) (id : MemberId) :
    (MemberEvent.added a).replay n.registry.localAddress n.registry.addresses.toFinset
      = some (n.enroll a id).registry.addresses.toFinset := by
  have hmem : a ∉ n.registry.addresses.toFinset := by
    rw [mem_toFinset_addresses, habsent]
    exact Bool.false_ne_true
  have hset : insert a n.registry.addresses.toFinset
      = (n.enroll a id).registry.addresses.toFinset := by
    ext c
    rw [Finset.mem_insert, mem_toFinset_addresses, mem_toFinset_addresses]
    exact (contains_enroll n a id c).symm
  rw [MemberEvent.replay, if_neg (by simp [hlocal, hmem]), hset]

/-- An act of a pass changes the registered addresses by the event that is pending then. -/
theorem replays_deed {address : String} {n n' : Node ω} {d : Membership} {j j' : Juncture}
    {e : Effect} {heard : List MemberEvent} (hledger : Ledger address n j.held)
    (hdeed : Deed n d j n' e j')
    (h : replay address {address} (heard ++ j.pending) = some n.registry.addresses.toFinset) :
    replay address {address} (heard ++ j'.pending) = some n'.registry.addresses.toFinset := by
  have hhome : n.registry.contains n.registry.localAddress = true := by
    rw [← Registry.isSome_get?, hledger.localAddress, hledger.home]
    rfl
  cases hdeed with
  | metadata => exact h
  | networks => exact h
  | kept => exact h
  | @removed id a l hgone hget =>
      have hthere : n.registry.contains a = true := by
        rw [← Registry.isSome_get?, hget]
        rfl
      have hbefore : replay address {address} heard = some n.registry.addresses.toFinset := by
        simpa [Juncture.pending] using h
      change replay address {address} (heard ++ [.removed a]) = _
      rw [replay_concat, hbefore, Option.bind_some, ← hledger.localAddress]
      exact replay_strike (of_dismisses hgone).2 hthere
  | closed => exact h
  | turned => exact h
  | present => exact h
  | refused => exact h
  | made habsent hmake =>
      obtain ⟨-, rfl, -⟩ := makeMember_ok hmake
      exact h
  | preceded => exact h
  | @registered id a l habsent =>
      have hlocal : a ≠ n.registry.localAddress := by
        rintro rfl
        rw [hhome] at habsent
        cases habsent
      have hbefore : replay address {address} heard = some n.registry.addresses.toFinset := by
        simpa [Juncture.pending] using h
      change replay address {address} (heard ++ [.added a]) = _
      rw [replay_concat, hbefore, Option.bind_some, ← hledger.localAddress]
      exact replay_enroll hlocal habsent id

theorem replays_next {address : String} {x y : Situation ω} (hx : x.Accounted address)
    (h : x.Replays address) (hnext : Next x y) : y.Replays address := by
  rw [Situation.Replays, Situation.pending] at h ⊢
  cases hnext with
  | requested d => exact h
  | begun hwaiting => exact h
  | done hdeed => exact replays_deed hx.ledger hdeed h
  | @told n k d b r j j' e htells =>
      have hpending : j.pending = [e] ∧ j'.pending = [] := by
        cases htells <;> exact ⟨rfl, rfl⟩
      rw [Option.elim_some] at h ⊢
      rw [hpending.1] at h
      rw [hpending.2, List.append_nil]
      exact h
  | finished => exact h
  | aside hapart =>
      rw [hapart.registry]
      exact h

theorem replays_of_leads {address : String} {x y : Situation ω} (hx : x.Accounted address)
    (h : x.Replays address) (hleads : Leads x y) : y.Replays address := by
  induction hleads with
  | refl => exact h
  | tail hbefore hnext ih => exact replays_next (accounted_of_leads hx hbefore) ih hnext

omit [Surroundings ω] in
theorem replays_alone (world : ω) (address : String) (sightings : Sightings)
    (channel : Membership.Channel) :
    (Situation.initial (alone world address sightings channel)).Replays address := by
  have hset : ({address} : Finset String)
      = (alone world address sightings channel).registry.addresses.toFinset := by
    ext a
    rw [Finset.mem_singleton, mem_toFinset_addresses, alone, Registry.contains_new, beq_iff_eq]
  exact congrArg some hset

/-! ## The trail -/

/-- The registry shows an event of a pass: the member that was added is registered and open, or the
one that was removed is gone and closed. -/
structure Reflected (n : Node ω) (d : Membership) (b : Registry) (e : MemberEvent) : Prop where
  metadata : n.registry.metadata = d.metadata
  networks : n.registry.networks = d.networks
  added : ∀ a, e = .added a → ∃ id, n.registry.get? a = some id ∧ n.isClosed id = n.lifetimeOver
  removed : ∀ a, e = .removed a →
    n.registry.get? a = none ∧ ∃ id, b.get? a = some id ∧ n.isClosed id = true

/-- What a listener that was there from the beginning has heard, and what it finds when it hears
it. -/
structure Trail (address : String) (x : Situation ω) : Prop where
  heard : x.minutes.heard = x.minutes.past.flatMap (fun p => p.2.events)
    ++ x.underway.elim [] fun u => u.report.events
  replays : x.Replays address
  reflected : ∀ u e j, x.underway = some u → u.juncture.Tells e j →
    Reflected x.node u.desired u.before e

omit [Surroundings ω] in
theorem Situation.Known.reflected {address : String} {x : Situation ω} (h : x.Known address)
    {u : Underway} {e : MemberEvent} {j : Juncture} (hu : x.underway = some u)
    (htells : u.juncture.Tells e j) : Reflected x.node u.desired u.before e := by
  have hlive := h.accounted.ledger.live
  have hknows := (h.passing u hu).knows
  obtain ⟨d, b, r, j⟩ := u
  cases htells with
  | @parted a l =>
      obtain ⟨hclearing, habsent, hclosed⟩ := hknows
      refine ⟨hclearing.metadata, hclearing.networks, fun c hc => ?_, fun c hc => ?_⟩
      · cases hc
      · obtain rfl := MemberEvent.removed.inj hc
        exact ⟨habsent, hclosed⟩
  | @joined a l =>
      obtain ⟨hfilling, hthere⟩ := hknows
      refine ⟨hfilling.metadata, hfilling.networks, fun c hc => ?_, fun c hc => ?_⟩
      · obtain rfl := MemberEvent.added.inj hc
        rw [← Registry.isSome_get?, Option.isSome_iff_exists] at hthere
        obtain ⟨id, hid⟩ := hthere
        exact ⟨id, hid, hlive a id hid⟩
      · cases hc

theorem trail_of_leads {world : ω} {address : String} {sightings : Sightings}
    {channel : Membership.Channel} {x : Situation ω}
    (hleads : Leads (.initial (alone world address sightings channel)) x) : Trail address x := by
  have hknown := known_of_leads (known_alone world address sightings channel) hleads
  obtain ⟨-, since, hpast, hheard⟩ := told_of_leads (told_rest _ .empty) hleads
  refine ⟨?_, ?_, fun u e j hu htells => hknown.reflected hu htells⟩
  · rw [hheard, hpast]
    rfl
  · exact replays_of_leads (accounted_alone world address sightings channel)
      (replays_alone world address sightings channel) hleads

/-! ## Whole passes -/

theorem hear_discharges (desired as : List String) (s : Node ω × Report) :
    ∃ gone, ((as.map .discharge).foldl (step desired) s).2.removed = s.2.removed ++ gone
      ∧ ((as.map .discharge).foldl (step desired) s).2.added = s.2.added
      ∧ ((as.map .discharge).foldl (step desired) s).1.world
        = (gone.map .removed).foldl Surroundings.hear s.1.world := by
  induction as generalizing s with
  | nil => exact ⟨[], (List.append_nil _).symm, rfl, rfl⟩
  | cons a r ih =>
      have hd := discharge_discharged s.1 desired a
      rw [List.map_cons, List.foldl_cons, step, perform]
      generalize s.1.discharge desired a = out at hd ⊢
      cases hd with
      | kept hkept => exact ih (s.1, s.2.note .nothing)
      | @removed id hgone hget =>
          obtain ⟨gone, hremoved, hadded, hworld⟩ := ih (_, s.2.note (.changed (.removed a)))
          refine ⟨a :: gone, ?_, hadded, hworld⟩
          rw [hremoved]
          simp [Report.note]

theorem hear_enlists (desired as : List String) (s : Node ω × Report) :
    ∃ come, ((as.map .enlist).foldl (step desired) s).2.removed = s.2.removed
      ∧ ((as.map .enlist).foldl (step desired) s).2.added = s.2.added ++ come
      ∧ ((as.map .enlist).foldl (step desired) s).1.world
        = (come.map .added).foldl Surroundings.hear s.1.world := by
  induction as generalizing s with
  | nil => exact ⟨[], rfl, (List.append_nil _).symm, rfl⟩
  | cons a r ih =>
      have he := enlist_enlisted s.1 a
      rw [List.map_cons, List.foldl_cons, step, perform]
      generalize s.1.enlist a = out at he ⊢
      cases he with
      | present hthere => exact ih (s.1, s.2.note .nothing)
      | refused habsent hrefused => exact ih (s.1, s.2.note (.failed a))
      | added habsent haccepts =>
          obtain ⟨come, hremoved, hadded, hworld⟩ := ih (_, s.2.note (.changed (.added a)))
          refine ⟨a :: come, hremoved, ?_, hworld⟩
          rw [hadded]
          simp [Report.note]

/-- A pass tells whatever surrounds the node what it reports, and nothing else. -/
theorem world_reconcile (n : Node ω) (d : Membership) :
    (n.reconcile d).1.world = (n.reconcile d).2.events.foldl Surroundings.hear n.world := by
  obtain ⟨gone, hremoved, hnone, hworld⟩ :=
    hear_discharges d.members n.registry.addresses (n.adopt d, .empty)
  obtain ⟨come, hkept, hadded, hworld'⟩ := hear_enlists d.members d.members
    ((n.registry.addresses.map .discharge).foldl (step d.members) (n.adopt d, .empty))
  rw [← reconcile_halves] at hkept hadded hworld'
  rw [hworld', hworld, Report.events, hkept, hadded, hremoved, hnone, ← List.foldl_append]
  rfl

/-- However passes follow one another among whatever else happens, what a listener hears is what
they report, it leads from the local address to the registered ones, and the registry shows each
event when it is heard. -/
theorem events_leave_trail {host : Host} {memory : Memory} {channel : Membership.Channel}
    {prepare : String → ω} {n₀ : Node ω} (hbuilt : build host memory channel prepare = .ok n₀) :
    (∃ address, n₀.members = [Member.new address]
      ∧ ∀ x, Leads (.initial n₀) x → Trail address x)
    ∧ ∀ (n : Node ω) (k : Minutes) (d : Membership),
      (n.reconcile d).1.world = (n.reconcile d).2.events.foldl Surroundings.hear n.world
      ∧ Leads ⟨n, none, k⟩ ⟨(n.reconcile d).1, none,
        { k with
          asked := k.asked ++ [d]
          past := k.past ++ [(d, (n.reconcile d).2)]
          heard := k.heard ++ (n.reconcile d).2.events }⟩ := by
  obtain ⟨address, sightings, rfl⟩ := alone_of_build hbuilt
  refine ⟨⟨address, rfl, fun x hleads => trail_of_leads hleads⟩, fun n k d => ?_⟩
  exact ⟨world_reconcile n d, leads_reconcile_heard n k d⟩

/-- Two passes of a node that can make no member for `d:1`: `c:1` comes and goes, and `a:1` is added
once. -/
theorem punctual_trail :
    let second := (punctual.reconcile pickyFirst).1.reconcile pickySecond
    second.1.world.listener.pending = [.added "c:1", .removed "c:1", .added "a:1"]
    ∧ replay "b:1" {"b:1"} [.added "c:1", .removed "c:1", .added "a:1"]
      = some second.1.registry.addresses.toFinset := by
  have hbuilt : build ⟨[], some "b:1", 1⟩ ⟨10, 10⟩ (.new pickyFirst)
      (fun _ => .start .quiet .scripted ["d:1"]) = .ok punctual := by rfl
  obtain ⟨⟨address, hmembers, htrail⟩, hpasses⟩ := events_leave_trail hbuilt
  obtain rfl : "b:1" = address := congrArg Member.address (List.cons.inj hmembers).1
  have hfirst := (hpasses punctual .empty pickyFirst).2
  have hsecond := hfirst.trans (hpasses (punctual.reconcile pickyFirst).1 _ pickySecond).2
  have hreplays := (htrail _ hsecond).replays
  have hevents : (punctual.reconcile pickyFirst).2.events
      ++ ((punctual.reconcile pickyFirst).1.reconcile pickySecond).2.events
      = [.added "c:1", .removed "c:1", .added "a:1"] := by decide +kernel
  have hheard : ([] ++ (punctual.reconcile pickyFirst).2.events
      ++ ((punctual.reconcile pickyFirst).1.reconcile pickySecond).2.events) ++ []
      = [MemberEvent.added "c:1", .removed "c:1", .added "a:1"] := by
    rw [List.nil_append, List.append_nil, hevents]
  refine ⟨by decide +kernel, ?_⟩
  rw [← hheard]
  exact hreplays

end Conclave.Node

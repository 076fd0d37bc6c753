import Conclave.Proofs.Node.Turns
import Conclave.Proofs.Node.Underway

/-!
# What passes leave alone

A pass does not touch the members that it finds and that are desired, or the local one, and this is
true at every point inside it, not only at its end: they stay registered as they are, and no act of
a pass changes a registered member (`member?_deed`). The registered addresses are old or desired
ones. In the first half of a pass they only become fewer, and in the second half only more
(`tide_of_leads`). A pass that would remove all members and make them anew leads to the same
addresses, and it would do none of that.

When no pass is under way, all that is in the registry comes from the pass that had its turn last.
-/

namespace Conclave.Node

variable {ω : Type} [Surroundings ω]

/-! ## Registered members -/

/-- An act of a pass changes no member that is registered. -/
theorem member?_deed {address a : String} {n n' : Node ω} {d : Membership} {j j' : Juncture}
    {e : Effect} {id : MemberId} (hledger : Ledger address n j.held) (hholds : j.Holds n)
    (hdeed : Deed n d j n' e j') (hget : n.registry.get? a = some id) :
    n'.member? id = n.member? id := by
  obtain ⟨m, hm, rfl⟩ := hledger.keyed a id hget
  cases hdeed with
  | @closed closing b l =>
      -- the member that is closed is not registered any more
      obtain ⟨habsent, m', hm', rfl⟩ := hholds
      have hother : closing ≠ id := by
        rintro rfl
        obtain rfl : m' = m := Option.some.inj (hm'.symm.trans hm)
        rw [habsent] at hget
        cases hget
      rw [member?_updateMember, hm, Option.map_some, if_neg hother]
  | made habsent hmake =>
      obtain ⟨-, rfl, -⟩ := makeMember_ok hmake
      exact List.getElem?_append_left (List.getElem?_eq_some_iff.mp hm).1
  | _ => rfl

/-- A pass that is under way leaves alone what it is to retain. -/
structure Undisturbed (address : String) (n : Node ω) (u : Underway) : Prop where
  retained : ∀ a id, u.before.get? a = some id → a = address ∨ a ∈ u.desired.members →
    n.registry.get? a = some id ∧ n.isClosed id = n.lifetimeOver
  origin : ∀ a, n.registry.contains a = true →
    u.before.contains a = true ∨ a ∈ u.desired.members
  deeds : ∀ n' e j, Deed n u.desired u.juncture n' e j →
    ∀ a id, n.registry.get? a = some id → n'.member? id = n.member? id
  announcements : ∀ e, (n.announce e).members = n.members

theorem Situation.Known.undisturbed {address : String} {x : Situation ω} {u : Underway}
    (h : x.Known address) (hu : x.underway = some u) : Undisturbed address x.node u := by
  obtain ⟨n, _, k⟩ := x
  obtain rfl := hu
  obtain ⟨hledger, hholds⟩ := h.accounted
  have hpassing := h.passing u rfl
  refine ⟨?_, hpassing.origin, ?_, fun e => rfl⟩
  · intro a id hbefore hwhy
    have hget := hpassing.retained a id hbefore hwhy
    exact ⟨hget, hledger.live a id hget⟩
  · intro n' e j hdeed a id hget
    exact member?_deed hledger (hholds u rfl) hdeed hget

/-! ## Registered addresses -/

/-- What becomes of the registered addresses from one point of a pass to another. -/
structure Tide (n : Node ω) (j : Juncture) (n' : Node ω) (j' : Juncture) : Prop where
  first : j'.IsFirst → j.IsFirst
  shrinks : j'.IsFirst → ∀ a, n'.registry.contains a = true → n.registry.contains a = true
  grows : ¬ j.IsFirst → ∀ a, n.registry.contains a = true → n'.registry.contains a = true

omit [Surroundings ω] in
theorem Tide.of_registry {n n' : Node ω} {j j' : Juncture} (hfirst : j'.IsFirst → j.IsFirst)
    (hregistry : n'.registry = n.registry) : Tide n j n' j' := by
  refine ⟨hfirst, fun _ a ha => ?_, fun _ a ha => ?_⟩
  · rw [← hregistry]
    exact ha
  · rw [hregistry]
    exact ha

omit [Surroundings ω] in
theorem Tide.trans {n₁ n₂ n₃ : Node ω} {j₁ j₂ j₃ : Juncture} (h : Tide n₁ j₁ n₂ j₂)
    (h' : Tide n₂ j₂ n₃ j₃) : Tide n₁ j₁ n₃ j₃ := by
  refine ⟨fun hj => h.first (h'.first hj), fun hj a ha => ?_, fun hj a ha => ?_⟩
  · exact h.shrinks (h'.first hj) a (h'.shrinks hj a ha)
  · exact h'.grows (fun hj₂ => hj (h.first hj₂)) a (h.grows hj a ha)

theorem tide_deed {n n' : Node ω} {d : Membership} {j j' : Juncture} {e : Effect}
    (hdeed : Deed n d j n' e j') : Tide n j n' j' := by
  cases hdeed with
  | removed hgone hget =>
      refine ⟨fun _ => trivial, fun _ a ha => ?_, fun hsecond => absurd trivial hsecond⟩
      exact (contains_strike (of_dismisses hgone).2 ha).2
  | @registered id b l habsent =>
      refine ⟨fun hfirst => hfirst.elim, fun hfirst => hfirst.elim, fun _ a ha => ?_⟩
      exact (contains_enroll n b id a).mpr (.inr ha)
  | made habsent hmake =>
      obtain ⟨-, rfl, -⟩ := makeMember_ok hmake
      exact .of_registry (fun hfirst => hfirst.elim) rfl
  | metadata => exact ⟨fun _ => trivial, fun _ _ ha => ha, fun _ _ ha => ha⟩
  | networks => exact ⟨fun _ => trivial, fun _ _ ha => ha, fun _ _ ha => ha⟩
  | present => exact .of_registry (fun hfirst => hfirst.elim) rfl
  | refused => exact .of_registry (fun hfirst => hfirst.elim) rfl
  | preceded => exact .of_registry (fun hfirst => hfirst.elim) rfl
  | _ => exact .of_registry (fun _ => trivial) rfl

omit [Surroundings ω] in
theorem Juncture.Tells.isFirst {j j' : Juncture} {e : MemberEvent} (h : j.Tells e j') :
    j'.IsFirst → j.IsFirst := by
  cases h <;> exact id

/-- Two points of one pass, and what has become of the registered addresses between them. -/
structure Within (n : Node ω) (u : Underway) (n' : Node ω) (u' : Underway) : Prop where
  desired : u'.desired = u.desired
  before : u'.before = u.before
  tide : Tide n u.juncture n' u'.juncture

/-- As long as no pass is over, it is the same one. -/
theorem within_of_leads {x y : Situation ω} {u : Underway} (hu : x.underway = some u)
    (hleads : Leads x y) : x.minutes.past.length ≤ y.minutes.past.length
      ∧ (y.minutes.past.length = x.minutes.past.length →
        ∃ v, y.underway = some v ∧ Within x.node u y.node v) := by
  induction hleads with
  | refl => exact ⟨Nat.le_refl _, fun _ => ⟨u, hu, rfl, rfl, .of_registry id rfl⟩⟩
  | tail _ hnext ih =>
      obtain ⟨hle, ih⟩ := ih
      cases hnext with
      | requested d => exact ⟨hle, ih⟩
      | begun hwaiting =>
          refine ⟨hle, fun hsame => ?_⟩
          obtain ⟨v, hv, -⟩ := ih hsame
          cases hv
      | done hdeed =>
          refine ⟨hle, fun hsame => ?_⟩
          obtain ⟨v, hv, hdesired, hbefore, htide⟩ := ih hsame
          obtain rfl := Option.some.inj hv
          exact ⟨_, rfl, hdesired, hbefore, htide.trans (tide_deed hdeed)⟩
      | told htells =>
          refine ⟨hle, fun hsame => ?_⟩
          obtain ⟨v, hv, hdesired, hbefore, htide⟩ := ih hsame
          obtain rfl := Option.some.inj hv
          exact ⟨_, rfl, hdesired, hbefore, htide.trans (.of_registry htells.isFirst rfl)⟩
      | finished =>
          rw [Minutes.conclude, List.length_append, List.length_singleton]
          refine ⟨Nat.le_succ_of_le hle, fun hsame => ?_⟩
          rw [← hsame] at hle
          exact absurd hle (Nat.not_succ_le_self _)
      | aside hapart =>
          refine ⟨hle, fun hsame => ?_⟩
          obtain ⟨v, hv, hdesired, hbefore, htide⟩ := ih hsame
          exact ⟨v, hv, hdesired, hbefore, htide.trans (.of_registry id hapart.registry)⟩

/-! ## What passes lead to -/

/-- What the passes have led to, in whatever order they had their turns: to nothing that they do not
lead to one by one. While none is under way, all that is in the registry comes from the last
one. -/
structure InTurn (address : String) (n : Node ω) (x : Situation ω) : Prop where
  turns : (x.begun ++ x.minutes.waiting).Perm x.minutes.asked
  oneByOne : ∃ asked, OneByOne (.initial n) (x.unawaited asked)
  passes : ∀ factory, Makes factory n → Steadily factory (.initial n) x → x.underway = none →
    x.node.registry = (n.passes (x.minutes.past.map Prod.fst)).registry
  last : x.underway = none → ∀ d r, x.minutes.past.getLast? = some (d, r) →
    Filling address x.node d r []

theorem Situation.Known.inTurn {address : String} {n : Node ω} {x : Situation ω}
    (h : x.Known address) (hleads : Leads (.initial n) x) : InTurn address n x := by
  refine ⟨turns_of_leads hleads, leads_oneByOne hleads, ?_, ?_⟩
  · intro factory hn hsteadily hnone
    have hakin := akin_of_steadily hn hsteadily
    rw [Situation.begun, Situation.outcome, hnone, Option.elim_none, Option.elim_none,
      List.append_nil] at hakin
    exact hakin.registry
  · intro hnone d r hlast
    exact h.last hnone (d, r) hlast

/-- Whatever passes are made among whatever else happens, the members that a pass is to retain are
left alone at every point inside it, the registered addresses change one way only in each of its
halves, and passes that are asked for at the same time lead to what they lead to one after the
other. All that a node does is made of such steps, unless somebody around it closes members. -/
theorem retained_undisturbed {host : Host} {memory : Memory} {channel : Membership.Channel}
    {prepare : String → ω} {n₀ : Node ω} (hbuilt : build host memory channel prepare = .ok n₀) :
    ∃ address, n₀.members = [Member.new address]
      ∧ (∀ x u, Leads (.initial n₀) x → x.underway = some u → Undisturbed address x.node u)
      ∧ (∀ x y u v, Leads (.initial n₀) x → Leads x y → x.underway = some u →
        y.underway = some v → y.minutes.past = x.minutes.past → Within x.node u y.node v)
      ∧ (∀ x, Leads (.initial n₀) x → InTurn address n₀ x)
      ∧ (Considerate ω → ∀ n, Lived n₀ n → ∃ x, Leads (.initial n₀) x ∧ x.node = n ∧ x.InStep) := by
  obtain ⟨address, sightings, rfl⟩ := alone_of_build hbuilt
  have hstart := known_alone (prepare address) address sightings channel
  have hknown : ∀ x, Leads (.initial (alone (prepare address) address sightings channel)) x →
      x.Known address := fun x hleads => known_of_leads hstart hleads
  refine ⟨address, rfl, ?_, ?_, ?_, ?_⟩
  · intro x u hleads hu
    exact (hknown x hleads).undisturbed hu
  · intro x y u v _ hleads hu hv hsame
    obtain ⟨w, hw, hwithin⟩ := (within_of_leads hu hleads).2 (congrArg List.length hsame)
    obtain rfl : w = v := Option.some.inj (hw.symm.trans hv)
    exact hwithin
  · intro x hleads
    exact (hknown x hleads).inTurn hleads
  · intro hc n hlived
    exact hlived.onward hc (.initial _) rfl rfl

/-- What is desired of a node at `b:1` with one peer, whose name is in the metadata as well. -/
def withPeer (peer : String) : Membership :=
  { (default : Membership) with
    members := ["b:1", peer]
    metadata := StringMap.ofList [("peer", peer)] }

/-- Passes for `a:1` and `c:1` are asked for together, and the one for `c:1` has its turn first: then
the metadata and the members are those for `a:1`. -/
theorem crossed_passes :
    let n := punctual.passes [withPeer "c:1", withPeer "a:1"]
    n.registry.metadata.get? "peer" = some "a:1" ∧ n.registry.contains "a:1" = true
    ∧ ∀ a, n.registry.contains a = true → a = "b:1" ∨ a = "a:1" := by
  have hbuilt : build ⟨[], some "b:1", 1⟩ ⟨10, 10⟩ (.new pickyFirst)
      (fun _ => .start .quiet .scripted ["d:1"]) = .ok punctual := by rfl
  obtain ⟨address, hmembers, -, -, hinTurn, -⟩ := retained_undisturbed hbuilt
  obtain rfl : "b:1" = address := congrArg Member.address (List.cons.inj hmembers).1
  have hasked : Leads (.initial punctual) ⟨punctual, none,
      (Minutes.empty.ask (withPeer "a:1")).ask (withPeer "c:1")⟩ :=
    .tail (.single (.requested (withPeer "a:1"))) (.requested (withPeer "c:1"))
  have hturns : [withPeer "c:1", withPeer "a:1"].Perm
      ((Minutes.empty.ask (withPeer "a:1")).ask (withPeer "c:1")).waiting := .swap ..
  obtain ⟨past, heard, hpast, hpasses⟩ := leads_passes punctual _ hturns
  have hlast : past.getLast?.map Prod.fst = some (withPeer "a:1") := by
    rw [← List.getLast?_map, hpast]
    rfl
  obtain ⟨⟨_, r⟩, hend, rfl⟩ := Option.map_eq_some_iff.mp hlast
  have hfilling := (hinTurn _ (hasked.trans hpasses)).last rfl _ r hend
  refine ⟨?_, by decide +kernel, fun a ha => ?_⟩
  · rw [hfilling.metadata]
    rfl
  · rcases hfilling.desired a ha with hlocal | hdesired
    · exact .inl hlocal
    · simpa [withPeer] using hdesired

end Conclave.Node

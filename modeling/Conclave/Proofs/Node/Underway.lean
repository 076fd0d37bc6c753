import Conclave.Proofs.Node.Handles

/-!
# What is known of a pass on its way

A pass has found a registry when it began, and at each of its junctures that registry, the desired
membership and the report so far tell what is registered now (`Passing`). In its first half only
members are left that were there before; in its second half only the desired ones are, and the local
one, and every desired address is registered, or it has failed, or it is yet to be looked at. Every
act of the pass keeps this (`passing_deed`), and so does whatever happens beside it.

When the pass is over, what is known at its end stays true until the next one begins
(`Situation.Known`).
-/

namespace Conclave.Node

variable {ω : Type}

/-! ## Halves of a pass -/

/-- Whether a juncture is in the first half of a pass. -/
def Juncture.IsFirst : Juncture → Prop
  | .filling _ | .unregistered _ _ _ | .joined _ _ => False
  | _ => True

/-- The first half of a pass: some addresses are left to be looked at. -/
structure Clearing (address : String) (n : Node ω) (d : Membership) (b : Registry) (r : Report)
    (left : List String) : Prop where
  metadata : n.registry.metadata = d.metadata
  networks : n.registry.networks = d.networks
  old : ∀ a id, n.registry.get? a = some id → b.get? a = some id
  left : ∀ a, n.registry.contains a = true → a = address ∨ a ∈ d.members ∨ a ∈ left
  added : r.added = []
  failed : r.failed = []

/-- The second half of a pass: some desired addresses are left to be looked at. -/
structure Filling (address : String) (n : Node ω) (d : Membership) (r : Report)
    (left : List String) : Prop where
  metadata : n.registry.metadata = d.metadata
  networks : n.registry.networks = d.networks
  desired : ∀ a, n.registry.contains a = true → a = address ∨ a ∈ d.members
  served : ∀ a ∈ d.members, n.registry.contains a = true ∨ a ∈ r.failed ∨ a ∈ left
  left : ∀ a ∈ left, a ∈ d.members

/-- What is known at a juncture. -/
def Juncture.Knows (address : String) (n : Node ω) (d : Membership) (b : Registry) (r : Report) :
    Juncture → Prop
  | .entered => n.registry = b ∧ r = .empty
  | .renewed => n.registry = { b with metadata := d.metadata } ∧ r = .empty
  | .clearing l => Clearing address n d b r l
  | .unclosed id a l => Clearing address n d b r l ∧ b.get? a = some id
  | .parted a l => Clearing address n d b r l ∧ n.registry.get? a = none
      ∧ ∃ id, b.get? a = some id ∧ n.isClosed id = true
  | .filling l => Filling address n d r l
  | .unregistered _ a l => Filling address n d r (a :: l)
  | .joined a l => Filling address n d r l ∧ n.registry.contains a = true

/-- What is known of a pass that is under way at a node with a local address. -/
structure Passing (address : String) (n : Node ω) (u : Underway) : Prop where
  retained : ∀ a id, u.before.get? a = some id → a = address ∨ a ∈ u.desired.members →
    n.registry.get? a = some id
  origin : ∀ a, n.registry.contains a = true →
    u.before.contains a = true ∨ a ∈ u.desired.members
  knows : u.juncture.Knows address n u.desired u.before u.report

/-! ## The acts of a pass -/

section

variable {address : String} {n : Node ω} {d : Membership} {b : Registry} {r : Report}

theorem contains_strike {a : String} (h : a ≠ n.registry.localAddress) {c : String}
    (hc : (n.strike a).registry.contains c = true) : c ≠ a ∧ n.registry.contains c = true := by
  rw [← Registry.isSome_get?, get?_strike h] at hc
  by_cases hca : c = a
  · rw [if_pos hca] at hc
    cases hc
  · rw [if_neg hca, Registry.isSome_get?] at hc
    exact ⟨hca, hc⟩

theorem contains_enroll (n : Node ω) (a : String) (id : MemberId) (c : String) :
    (n.enroll a id).registry.contains c = true ↔ c = a ∨ n.registry.contains c = true := by
  have hinsert := Registry.contains_insert n.registry a id c
  rw [enroll, hinsert, Bool.or_eq_true, beq_iff_eq]
  exact or_comm

theorem clearing_networks (hr : r = .empty)
    (hregistry : n.registry = { b with metadata := d.metadata }) :
    Clearing address (n.replaceNetworks d.networks) d b r n.registry.addresses := by
  have hmetadata : n.registry.metadata = d.metadata := by rw [hregistry]
  have hget : ∀ a, n.registry.get? a = b.get? a := by
    intro a
    rw [hregistry]
    rfl
  refine ⟨hmetadata, rfl, ?_, ?_, ?_, ?_⟩
  · intro a id ha
    exact (hget a).symm.trans ha
  · intro a ha
    exact .inr (.inr (Registry.mem_addresses.mpr ha))
  · rw [hr]
    rfl
  · rw [hr]
    rfl

theorem Clearing.of_registry {n' : Node ω} {l : List String} (h : Clearing address n d b r l)
    (hregistry : n'.registry = n.registry) : Clearing address n' d b r l := by
  refine ⟨?_, ?_, ?_, ?_, h.added, h.failed⟩ <;> rw [hregistry]
  · exact h.metadata
  · exact h.networks
  · exact h.old
  · exact h.left

theorem Filling.of_registry {n' : Node ω} {l : List String} (h : Filling address n d r l)
    (hregistry : n'.registry = n.registry) : Filling address n' d r l := by
  refine ⟨?_, ?_, ?_, ?_, h.left⟩ <;> rw [hregistry]
  · exact h.metadata
  · exact h.networks
  · exact h.desired
  · exact h.served

theorem Clearing.kept {a : String} {l : List String} (h : Clearing address n d b r (a :: l))
    (ha : n.registry.contains a = true → a = address ∨ a ∈ d.members) :
    Clearing address n d b r l := by
  refine ⟨h.metadata, h.networks, h.old, ?_, h.added, h.failed⟩
  intro c hc
  rcases h.left c hc with hlocal | hdesired | hleft
  · exact .inl hlocal
  · exact .inr (.inl hdesired)
  · rcases List.mem_cons.mp hleft with rfl | hleft
    · exact (ha hc).imp_right .inl
    · exact .inr (.inr hleft)

theorem Clearing.strike {a : String} {l : List String} (h : Clearing address n d b r (a :: l))
    (ha : a ≠ n.registry.localAddress) : Clearing address (n.strike a) d b r l := by
  have hterms := Registry.sameTerms_remove n.registry a
  refine ⟨hterms.metadata.trans h.metadata, hterms.networks.trans h.networks, ?_, ?_,
    h.added, h.failed⟩
  · intro c id hc
    rw [get?_strike ha] at hc
    split at hc
    · cases hc
    · exact h.old c id hc
  · intro c hc
    obtain ⟨hca, hc⟩ := contains_strike ha hc
    rcases h.left c hc with hlocal | hdesired | hleft
    · exact .inl hlocal
    · exact .inr (.inl hdesired)
    · exact .inr (.inr ((List.mem_cons.mp hleft).resolve_left hca))

theorem Clearing.filling (h : Clearing address n d b r []) : Filling address n d r d.members := by
  refine ⟨h.metadata, h.networks, ?_, fun a ha => .inr (.inr ha), fun a ha => ha⟩
  intro a ha
  rcases h.left a ha with hlocal | hdesired | hleft
  · exact .inl hlocal
  · exact .inr hdesired
  · cases hleft

theorem Filling.served_head {a : String} {l : List String} (h : Filling address n d r (a :: l))
    (r' : Report) (hfailed : ∀ c ∈ r.failed, c ∈ r'.failed)
    (ha : n.registry.contains a = true ∨ a ∈ r'.failed) : Filling address n d r' l := by
  refine ⟨h.metadata, h.networks, h.desired, ?_, fun c hc => h.left c (List.mem_cons_of_mem a hc)⟩
  intro c hc
  rcases h.served c hc with hthere | hfail | hleft
  · exact .inl hthere
  · exact .inr (.inl (hfailed c hfail))
  · rcases List.mem_cons.mp hleft with rfl | hleft
    · exact ha.imp_right .inl
    · exact .inr (.inr hleft)

theorem Filling.enroll {a : String} {l : List String} (h : Filling address n d r (a :: l))
    (id : MemberId) : Filling address (n.enroll a id) d r l := by
  have hterms := Registry.sameTerms_insert n.registry a id
  have hmem := h.left a (List.mem_cons_self ..)
  have hcontains := contains_enroll n a id
  refine ⟨hterms.metadata.trans h.metadata, hterms.networks.trans h.networks, ?_, ?_,
    fun c hc => h.left c (List.mem_cons_of_mem a hc)⟩
  · intro c hc
    rcases (hcontains c).mp hc with rfl | hc
    · exact .inr hmem
    · exact h.desired c hc
  · intro c hc
    rcases h.served c hc with hthere | hfail | hleft
    · exact .inl ((hcontains c).mpr (.inr hthere))
    · exact .inr (.inl hfail)
    · rcases List.mem_cons.mp hleft with rfl | hleft
      · exact .inl ((hcontains c).mpr (.inl rfl))
      · exact .inr (.inr hleft)

end

variable [Surroundings ω]

/-- Every act of a pass keeps what is known of it. -/
theorem passing_deed {address : String} {n n' : Node ω} {d : Membership} {b : Registry}
    {r : Report} {j j' : Juncture} {e : Effect} (hledger : Ledger address n j.held)
    (hholds : j.Holds n) (h : Passing address n ⟨d, b, r, j⟩) (hdeed : Deed n d j n' e j') :
    Passing address n' ⟨d, b, r.note e, j'⟩ := by
  obtain ⟨hretained, horigin, hknows⟩ := h
  cases hdeed with
  | metadata =>
      obtain ⟨rfl, rfl⟩ := hknows
      exact ⟨hretained, horigin, rfl, rfl⟩
  | networks =>
      obtain ⟨hregistry, hr⟩ := hknows
      exact ⟨hretained, horigin, clearing_networks hr hregistry⟩
  | kept hkept =>
      refine ⟨hretained, horigin, Clearing.kept hknows fun ha => ?_⟩
      have hwhy := of_not_dismisses hkept ha
      rw [hledger.localAddress] at hwhy
      exact hwhy
  | @removed id a l hgone hget =>
      obtain ⟨hdesired, hlocal⟩ := of_dismisses hgone
      refine ⟨fun c id hc hwhy => ?_, fun c hc => ?_, hknows.strike hlocal, hknows.old a id hget⟩
      · have hca : c ≠ a := by
          rintro rfl
          rcases hwhy with rfl | hwhy
          · exact hlocal hledger.localAddress.symm
          · exact hdesired hwhy
        rw [get?_strike hlocal, if_neg hca]
        exact hretained c id hc hwhy
      · exact horigin c (contains_strike hlocal hc).2
  | @closed id a l =>
      obtain ⟨hclearing, hold⟩ := hknows
      obtain ⟨habsent, m, hm, -⟩ := hholds
      exact ⟨hretained, horigin, hclearing.of_registry rfl, habsent, id, hold, isClosed_close hm⟩
  | turned => exact ⟨hretained, horigin, hknows.filling⟩
  | present hthere =>
      exact ⟨hretained, horigin, hknows.served_head r (fun _ hc => hc) (.inl hthere)⟩
  | @refused fault a l habsent hmake =>
      have hfailed : ∀ c ∈ r.failed, c ∈ (r.note (.failed a)).failed :=
        fun c hc => List.mem_append_left _ hc
      have ha : a ∈ (r.note (.failed a)).failed :=
        List.mem_append_right _ (List.mem_singleton.mpr rfl)
      exact ⟨hretained, horigin, hknows.served_head _ hfailed (.inr ha)⟩
  | made habsent hmake =>
      obtain ⟨-, rfl, -⟩ := makeMember_ok hmake
      exact ⟨hretained, horigin, Filling.of_registry hknows rfl⟩
  | preceded hthere =>
      rw [← Registry.isSome_get?, hholds.1.absent] at hthere
      cases hthere
  | @registered id a l habsent =>
      have hnone := get?_eq_none_of_contains habsent
      have hmem : a ∈ d.members := hknows.left a (List.mem_cons_self ..)
      refine ⟨fun c id' hc hwhy => ?_, fun c hc => ?_, hknows.enroll id, ?_⟩
      · have hkept := hretained c id' hc hwhy
        have hca : c ≠ a := by
          rintro rfl
          rw [hnone] at hkept
          cases hkept
        rw [get?_enroll hnone, if_neg hca]
        exact hkept
      · rcases (contains_enroll n a id c).mp hc with rfl | hc
        · exact .inr hmem
        · exact horigin c hc
      · exact (contains_enroll n a id a).mpr (.inl rfl)

theorem passing_tells {address : String} {n : Node ω} {d : Membership} {b : Registry}
    {r : Report} {j j' : Juncture} {e : MemberEvent} (h : Passing address n ⟨d, b, r, j⟩)
    (htells : j.Tells e j') :
    Passing address (n.announce e) ⟨d, b, r.note (.changed e), j'⟩ := by
  obtain ⟨hretained, horigin, hknows⟩ := h
  cases htells with
  | parted =>
      obtain ⟨hclearing, -⟩ := hknows
      exact ⟨hretained, horigin, hclearing.metadata, hclearing.networks, hclearing.old,
        hclearing.left, hclearing.added, hclearing.failed⟩
  | joined =>
      obtain ⟨hfilling, -⟩ := hknows
      exact ⟨hretained, horigin, hfilling.metadata, hfilling.networks, hfilling.desired,
        hfilling.served, hfilling.left⟩

omit [Surroundings ω] in
theorem passing_apart {address : String} {n n' : Node ω} {u : Underway}
    (h : Passing address n u) (hapart : Apart n n') : Passing address n' u := by
  obtain ⟨d, b, r, j⟩ := u
  obtain ⟨hretained, horigin, hknows⟩ := h
  have hregistry := hapart.registry
  refine ⟨?_, ?_, ?_⟩
  · rw [hregistry]
    exact hretained
  · rw [hregistry]
    exact horigin
  · cases j with
    | entered => exact ⟨hregistry.trans hknows.1, hknows.2⟩
    | renewed => exact ⟨hregistry.trans hknows.1, hknows.2⟩
    | clearing l => exact hknows.of_registry hregistry
    | unclosed id a l => exact ⟨hknows.1.of_registry hregistry, hknows.2⟩
    | parted a l =>
        obtain ⟨hknows, habsent, id, hold, hclosed⟩ := hknows
        exact ⟨hknows.of_registry hregistry, hregistry ▸ habsent, id, hold,
          hapart.closed id hclosed⟩
    | filling l => exact hknows.of_registry hregistry
    | unregistered id a l => exact hknows.of_registry hregistry
    | joined a l => exact ⟨hknows.1.of_registry hregistry, hregistry ▸ hknows.2⟩

/-! ## Situations -/

/-- What is known in a situation of a node with a local address: of the pass that is under way, and
of the last one that is over. -/
structure Situation.Known (address : String) (x : Situation ω) : Prop where
  accounted : x.Accounted address
  passing : ∀ u ∈ x.underway, Passing address x.node u
  last : x.underway = none → ∀ p, x.minutes.past.getLast? = some p →
    Filling address x.node p.1 p.2 []

theorem known_next {address : String} {x y : Situation ω} (h : x.Known address)
    (hnext : Next x y) : y.Known address := by
  have haccounted := accounted_next h.accounted hnext
  obtain ⟨⟨hledger, hholds⟩, hpassing, hlast⟩ := h
  cases hnext with
  | requested d => exact ⟨haccounted, hpassing, hlast⟩
  | @begun n k ds es d hwaiting =>
      refine ⟨haccounted, ?_, fun hnone => absurd hnone (Option.some_ne_none _)⟩
      intro u hu
      obtain rfl := Option.some.inj hu
      exact ⟨fun _ _ ha _ => ha, fun _ ha => .inl ha, rfl, rfl⟩
  | done hdeed =>
      refine ⟨haccounted, ?_, fun hnone => absurd hnone (Option.some_ne_none _)⟩
      intro u hu
      obtain rfl := Option.some.inj hu
      exact passing_deed hledger (hholds _ rfl) (hpassing _ rfl) hdeed
  | told htells =>
      refine ⟨haccounted, ?_, fun hnone => absurd hnone (Option.some_ne_none _)⟩
      intro u hu
      obtain rfl := Option.some.inj hu
      exact passing_tells (hpassing _ rfl) htells
  | finished =>
      refine ⟨haccounted, (fun u hu => absurd hu (Option.not_mem_none u)), ?_⟩
      intro _ p hp
      rw [Minutes.conclude, List.getLast?_concat] at hp
      obtain rfl := Option.some.inj hp
      exact (hpassing _ rfl).knows
  | @aside n n' u k hapart =>
      refine ⟨haccounted, fun u hu => passing_apart (hpassing u hu) hapart, ?_⟩
      intro hnone p hp
      exact (hlast hnone p hp).of_registry hapart.registry

theorem known_of_leads {address : String} {x y : Situation ω} (h : x.Known address)
    (hleads : Leads x y) : y.Known address := by
  induction hleads with
  | refl => exact h
  | tail _ hnext ih => exact known_next ih hnext

omit [Surroundings ω] in
theorem known_alone (world : ω) (address : String) (sightings : Sightings)
    (channel : Membership.Channel) :
    (Situation.initial (alone world address sightings channel)).Known address :=
  ⟨accounted_alone world address sightings channel,
    (fun u hu => absurd hu (Option.not_mem_none u)),
    fun _ p hp => absurd hp (Option.not_mem_none p)⟩

end Conclave.Node

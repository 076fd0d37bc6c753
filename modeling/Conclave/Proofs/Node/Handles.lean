import Conclave.Proofs.Node.Beside
import Conclave.Proofs.Node.Following

/-!
# What becomes of the members that are made

A member that was made is registered under its address, or it is closed; only in the middle of a pass
may there be one that is neither: it has been removed and is about to be closed, or it has been made
and is about to be registered (`Juncture.held`). `Ledger` says so of a node, beside what it needs of
the registered members, and every act of a pass keeps it (`ledger_deed`). A registered member is closed
with the lifetime and not before, whoever has made it and when.
-/

namespace Conclave.Node

variable {ω : Type}

/-! ## Members in the middle of a pass -/

/-- The member that a pass has in its hands. -/
def Juncture.held : Juncture → Option MemberId
  | .unclosed id _ _ | .unregistered id _ _ => some id
  | _ => none

/-- A member was made for an address, and nothing is registered there. -/
structure Loose (n : Node ω) (id : MemberId) (a : String) : Prop where
  absent : n.registry.get? a = none
  made : ∃ m, n.member? id = some m ∧ m.address = a

/-- What is known of the member that a pass has in its hands. -/
def Juncture.Holds (n : Node ω) : Juncture → Prop
  | .unclosed id a _ => Loose n id a
  | .unregistered id a _ => Loose n id a ∧ n.isClosed id = n.lifetimeOver
  | _ => True

/-- Every member is accounted for. `held` is the one that a pass has in its hands. -/
structure Ledger (address : String) (n : Node ω) (held : Option MemberId) : Prop where
  localAddress : n.registry.localAddress = address
  home : n.registry.get? address = some 0
  keyed : ∀ a id, n.registry.get? a = some id → ∃ m, n.member? id = some m ∧ m.address = a
  live : ∀ a id, n.registry.get? a = some id → n.isClosed id = n.lifetimeOver
  accounted : ∀ id m, n.member? id = some m →
    n.registry.get? m.address = some id ∨ n.isClosed id = true ∨ held = some id

/-! ## The acts of a pass -/

theorem isClosed_close {n : Node ω} {id : MemberId} {m : Member} (h : n.member? id = some m) :
    (n.updateMember id Member.close).isClosed id = true := by
  rw [isClosed, member?_updateMember, h]
  simp [Member.close]

theorem isClosed_close_of_ne {n : Node ω} {id other : MemberId} (h : other ≠ id) :
    (n.updateMember id Member.close).isClosed other = n.isClosed other := by
  rw [isClosed, member?_updateMember, isClosed]
  simp [h.symm, updateMember]

section

variable {address a : String} {n : Node ω} {id : MemberId}

theorem ledger_strike (h : Ledger address n none) (ha : a ≠ address)
    (hget : n.registry.get? a = some id) :
    Ledger address (n.strike a) (some id) ∧ Loose (n.strike a) id a := by
  have hstrike := get?_strike (n := n) (a := a) (h.localAddress ▸ ha)
  refine ⟨⟨?_, ?_, fun b other hb => ?_, fun b other hb => ?_, fun other m hm => ?_⟩,
    ⟨by rw [hstrike, if_pos rfl], h.keyed a id hget⟩⟩
  · exact (Registry.sameTerms_remove n.registry a).localAddress.trans h.localAddress
  · rw [hstrike, if_neg ha.symm, h.home]
  · rw [hstrike] at hb
    split at hb
    · cases hb
    · exact h.keyed b other hb
  · rw [hstrike] at hb
    split at hb
    · cases hb
    · exact h.live b other hb
  · rcases h.accounted other m hm with hb | hclosed | hheld
    · by_cases hm' : m.address = a
      · rw [hm', hget] at hb
        exact .inr (.inr hb)
      · rw [hstrike, if_neg hm']
        exact .inl hb
    · exact .inr (.inl hclosed)
    · cases hheld

theorem ledger_close (h : Ledger address n (some id)) (hloose : Loose n id a) :
    Ledger address (n.updateMember id Member.close) none := by
  obtain ⟨habsent, m, hm, haddress⟩ := hloose
  -- no registered member is the one that is closed
  have hother : ∀ b other, n.registry.get? b = some other → other ≠ id := by
    rintro b _ hb rfl
    obtain ⟨m', hm', rfl⟩ := h.keyed b _ hb
    rw [hm] at hm'
    rw [← Option.some.inj hm', haddress, habsent] at hb
    cases hb
  refine ⟨h.localAddress, h.home, fun b other hb => ?_, fun b other hb => ?_,
    fun other m' hm' => ?_⟩
  · obtain ⟨m', hm', hb'⟩ := h.keyed b other hb
    refine ⟨m', ?_, hb'⟩
    rw [member?_updateMember, hm', Option.map_some, if_neg (hother b other hb).symm]
  · rw [isClosed_close_of_ne (hother b other hb)]
    exact h.live b other hb
  · by_cases hsame : other = id
    · subst hsame
      exact .inr (.inl (isClosed_close hm))
    · rw [member?_updateMember, Option.map_eq_some_iff] at hm'
      obtain ⟨m'', hm'', rfl⟩ := hm'
      rw [if_neg (Ne.symm hsame), isClosed_close_of_ne hsame]
      rcases h.accounted other m'' hm'' with hb | hclosed | hheld
      · exact .inl hb
      · exact .inr (.inl hclosed)
      · exact absurd (Option.some.inj hheld).symm hsame

theorem ledger_make (h : Ledger address n none) (habsent : n.registry.get? a = none) :
    let n' := { n with members := n.members ++ [Member.new a] }
    Ledger address n' (some n.members.length) ∧ Loose n' n.members.length a
      ∧ n'.isClosed n.members.length = n'.lifetimeOver := by
  intro n'
  have hold : ∀ {other m}, n.member? other = some m → n'.member? other = some m := by
    intro other m hm
    have hlt : other < n.members.length := (List.getElem?_eq_some_iff.mp hm).1
    exact (List.getElem?_append_left hlt).trans hm
  have hnew : n'.member? n.members.length = some (Member.new a) := List.getElem?_concat_length
  have hclosed : ∀ {other m}, n.member? other = some m → n'.isClosed other = n.isClosed other := by
    intro other m hm
    rw [isClosed, hold hm, isClosed, hm]
  refine ⟨⟨h.localAddress, h.home, fun b other hb => ?_, fun b other hb => ?_,
    fun other m hm => ?_⟩, ⟨habsent, _, hnew, rfl⟩, ?_⟩
  · obtain ⟨m, hm, hb'⟩ := h.keyed b other hb
    exact ⟨m, hold hm, hb'⟩
  · obtain ⟨m, hm, -⟩ := h.keyed b other hb
    rw [hclosed hm]
    exact h.live b other hb
  · by_cases hlt : other < n.members.length
    · have hm' : n.member? other = some m := (List.getElem?_append_left hlt).symm.trans hm
      rw [hclosed hm']
      rcases h.accounted other m hm' with hb | hshut | hheld
      · exact .inl hb
      · exact .inr (.inl hshut)
      · cases hheld
    · have hend : other < (n.members ++ [Member.new a]).length :=
        (List.getElem?_eq_some_iff.mp hm).1
      rw [List.length_append, List.length_singleton] at hend
      have hlast : n.members.length = other :=
        Nat.le_antisymm (Nat.not_lt.mp hlt) (Nat.le_of_lt_succ hend)
      exact .inr (.inr (congrArg some hlast))
  · rw [isClosed, hnew]
    simp [Member.new]

theorem ledger_enroll (h : Ledger address n (some id)) (hloose : Loose n id a)
    (hlive : n.isClosed id = n.lifetimeOver) : Ledger address (n.enroll a id) none := by
  obtain ⟨habsent, hmade⟩ := hloose
  have henroll := get?_enroll habsent id
  have hne : address ≠ a := by
    rintro rfl
    rw [h.home] at habsent
    cases habsent
  refine ⟨?_, ?_, fun b other hb => ?_, fun b other hb => ?_, fun other m hm => ?_⟩
  · exact (Registry.sameTerms_insert n.registry a id).localAddress.trans h.localAddress
  · rw [henroll, if_neg hne, h.home]
  · rw [henroll] at hb
    split at hb
    · rename_i hba
      rw [hba, ← Option.some.inj hb]
      exact hmade
    · exact h.keyed b other hb
  · rw [henroll] at hb
    split at hb
    · rw [← Option.some.inj hb]
      exact hlive
    · exact h.live b other hb
  · rcases h.accounted other m hm with hb | hclosed | hheld
    · have hma : m.address ≠ a := by
        rintro hma
        rw [hma, habsent] at hb
        cases hb
      rw [henroll, if_neg hma]
      exact .inl hb
    · exact .inr (.inl hclosed)
    · obtain rfl := Option.some.inj hheld
      obtain ⟨m', hm', rfl⟩ := hmade
      obtain rfl : m' = m := Option.some.inj (hm'.symm.trans hm)
      exact .inl (by rw [henroll, if_pos rfl])

end

variable [Surroundings ω]

/-- Every act of a pass keeps all members accounted for. -/
theorem ledger_deed {address : String} {n n' : Node ω} {d : Membership} {j j' : Juncture}
    {e : Effect} (h : Ledger address n j.held) (hj : j.Holds n) (hdeed : Deed n d j n' e j') :
    Ledger address n' j'.held ∧ j'.Holds n' := by
  cases hdeed with
  | metadata => exact ⟨⟨h.localAddress, h.home, h.keyed, h.live, h.accounted⟩, trivial⟩
  | networks => exact ⟨⟨h.localAddress, h.home, h.keyed, h.live, h.accounted⟩, trivial⟩
  | kept hkept => exact ⟨h, trivial⟩
  | removed hgone hget =>
      exact ledger_strike h (h.localAddress ▸ (of_dismisses hgone).2) hget
  | closed => exact ⟨ledger_close h hj, trivial⟩
  | turned => exact ⟨h, trivial⟩
  | present hthere => exact ⟨h, trivial⟩
  | refused habsent hmake => exact ⟨h, trivial⟩
  | made habsent hmake =>
      obtain ⟨-, rfl, rfl⟩ := makeMember_ok hmake
      exact ledger_make h (get?_eq_none_of_contains habsent)
  | preceded hthere =>
      rw [← Registry.isSome_get?, hj.1.absent] at hthere
      cases hthere
  | registered habsent => exact ⟨ledger_enroll h hj.1 hj.2, trivial⟩

omit [Surroundings ω] in
theorem ledger_apart {address : String} {n n' : Node ω} {held : Option MemberId}
    (h : Ledger address n held) (hapart : Apart n n') : Ledger address n' held := by
  have hmember : ∀ {id m}, n.member? id = some m → ∃ m', n'.member? id = some m'
      ∧ m'.address = m.address := by
    intro id m hm
    have hsame := hapart.member? id
    rw [hm, Option.map_some, Option.map_eq_some_iff] at hsame
    exact hsame
  refine ⟨?_, ?_, fun a id ha => ?_, fun a id ha => ?_, fun id m hm => ?_⟩
  · rw [hapart.registry]
    exact h.localAddress
  · rw [hapart.registry]
    exact h.home
  · rw [hapart.registry] at ha
    obtain ⟨m, hm, rfl⟩ := h.keyed a id ha
    exact hmember hm
  · rw [hapart.registry] at ha
    exact hapart.isClosed_eq (h.live a id ha)
  · have hsame := hapart.member? id
    rw [hm, Option.map_some, eq_comm, Option.map_eq_some_iff] at hsame
    obtain ⟨m', hm', haddress⟩ := hsame
    rw [hapart.registry, ← haddress]
    exact (h.accounted id m' hm').imp_right (.imp_left (hapart.closed id))

omit [Surroundings ω] in
theorem holds_apart {n n' : Node ω} {j : Juncture} (h : j.Holds n) (hapart : Apart n n') :
    j.Holds n' := by
  have hloose : ∀ {id a}, Loose n id a → Loose n' id a := by
    rintro id a ⟨habsent, m, hm, rfl⟩
    have hsame := hapart.member? id
    rw [hm, Option.map_some, Option.map_eq_some_iff] at hsame
    exact ⟨hapart.registry ▸ habsent, hsame⟩
  cases j with
  | unclosed id a l => exact hloose h
  | unregistered id a l => exact ⟨hloose h.1, hapart.isClosed_eq h.2⟩
  | _ => trivial

/-! ## Situations -/

/-- The member that is in the hands of the pass under way. -/
def Situation.held (x : Situation ω) : Option MemberId := x.underway.bind (·.juncture.held)

/-- Every member is accounted for in a situation. -/
structure Situation.Accounted (address : String) (x : Situation ω) : Prop where
  ledger : Ledger address x.node x.held
  holds : ∀ u ∈ x.underway, u.juncture.Holds x.node

theorem accounted_next {address : String} {x y : Situation ω} (h : x.Accounted address)
    (hnext : Next x y) : y.Accounted address := by
  obtain ⟨hledger, hholds⟩ := h
  cases hnext with
  | requested d => exact ⟨hledger, hholds⟩
  | begun hwaiting => exact ⟨hledger, fun u hu => by obtain rfl := Option.some.inj hu; trivial⟩
  | done hdeed =>
      obtain ⟨hledger, hholds⟩ := ledger_deed hledger (hholds _ rfl) hdeed
      exact ⟨hledger, fun u hu => by obtain rfl := Option.some.inj hu; exact hholds⟩
  | told htells =>
      have hsame : ∀ {n : Node ω} {e : MemberEvent} {held : Option MemberId},
          Ledger address n held → Ledger address (n.announce e) held :=
        fun h => ⟨h.localAddress, h.home, h.keyed, h.live, h.accounted⟩
      cases htells <;>
        exact ⟨hsame hledger, fun u hu => by obtain rfl := Option.some.inj hu; trivial⟩
  | finished => exact ⟨hledger, fun u hu => absurd hu (Option.not_mem_none u)⟩
  | aside hapart =>
      exact ⟨ledger_apart hledger hapart, fun u hu => holds_apart (hholds u hu) hapart⟩

omit [Surroundings ω] in
theorem accounted_alone (world : ω) (address : String) (sightings : Sightings)
    (channel : Membership.Channel) :
    (Situation.initial (alone world address sightings channel)).Accounted address := by
  have hget : ∀ a, (alone world address sightings channel).registry.get? a
      = if a = address then some 0 else none := by
    intro a
    rw [alone, Registry.new, Registry.get?, StringMap.get?_insert, StringMap.get?_empty]
  refine ⟨⟨rfl, ?_, fun a id ha => ?_, fun a id ha => ?_, fun id m hm => ?_⟩,
    fun u hu => absurd hu (Option.not_mem_none u)⟩
  · exact (hget address).trans (if_pos rfl)
  · rw [Situation.initial, hget] at ha
    split at ha
    · rename_i haddress
      obtain rfl := Option.some.inj ha
      exact ⟨Member.new address, rfl, haddress.symm⟩
    · cases ha
  · rw [Situation.initial, hget] at ha
    split at ha
    · obtain rfl := Option.some.inj ha
      rfl
    · cases ha
  · obtain ⟨hid, rfl⟩ := List.getElem?_eq_some_iff.mp hm
    have hzero : id = 0 := Nat.lt_one_iff.mp hid
    subst hzero
    exact .inl ((hget address).trans (if_pos rfl))

theorem accounted_of_leads {address : String} {x y : Situation ω} (h : x.Accounted address)
    (hleads : Leads x y) : y.Accounted address := by
  induction hleads with
  | refl => exact h
  | tail _ hnext ih => exact accounted_next ih hnext

/-! ## Registered or closed -/

/-- What holds of the members in every situation of a node at an address. The member that was made
when the node was built is the first one. -/
structure WellKept (address : String) (x : Situation ω) : Prop where
  localAddress : x.node.registry.localAddress = address
  home : x.node.registry.get? address = some 0
  keyed : ∀ a id, x.node.registry.get? a = some id →
    ∃ m, x.node.member? id = some m ∧ m.address = a
  live : ∀ a id, x.node.registry.get? a = some id → x.node.isClosed id = x.node.lifetimeOver
  settled : x.underway = none → ∀ id m, x.node.member? id = some m →
    x.node.registry.get? m.address = some id ∨ x.node.isClosed id = true

omit [Surroundings ω] in
theorem Situation.Accounted.wellKept {address : String} {x : Situation ω}
    (h : x.Accounted address) : WellKept address x := by
  refine ⟨h.ledger.localAddress, h.ledger.home, h.ledger.keyed, h.ledger.live, ?_⟩
  intro hnone id m hm
  rcases h.ledger.accounted id m hm with hregistered | hclosed | hheld
  · exact .inl hregistered
  · exact .inr hclosed
  · rw [Situation.held, hnone] at hheld
    cases hheld

/-- From the moment when a node is built, and whatever passes are made among whatever else happens,
the registered members are the open ones as long as the lifetime is not over. All that a node does
is made of such steps, unless somebody around it closes members. -/
theorem registered_iff_open {host : Host} {memory : Memory} {channel : Membership.Channel}
    {prepare : String → ω} {n₀ : Node ω} (hbuilt : build host memory channel prepare = .ok n₀) :
    ∃ address, n₀.members = [Member.new address]
      ∧ (∀ x, Leads (.initial n₀) x → WellKept address x)
      ∧ (Considerate ω →
        (∀ (n : Node ω) (e : Event ω), e.IsAside → Apart n (n.happen e))
        ∧ ∀ n, Lived n₀ n → ∃ x, Leads (.initial n₀) x ∧ x.node = n ∧ x.InStep) := by
  obtain ⟨address, sightings, rfl⟩ := alone_of_build hbuilt
  refine ⟨address, rfl, fun x hleads => ?_, fun hc => ⟨fun n e => apart_happen hc n, ?_⟩⟩
  · exact (accounted_of_leads (accounted_alone _ address sightings channel) hleads).wellKept
  · intro n hlived
    exact hlived.onward hc (.initial _) rfl rfl

/-! ## A node that is outlived by a pass -/

/-- Surroundings whose wishes that a member be closed are not passed on. -/
structure Gentle (ω : Type) where
  world : ω

/-- The wishes but those that a member be closed. -/
def spared (controls : List Control) : List Control :=
  controls.filter fun
    | .closeMember _ => false
    | _ => true

instance : Surroundings (Gentle ω) where
  elapse g := (⟨(Surroundings.elapse g.world).1⟩, spared (Surroundings.elapse g.world).2)
  now g := Surroundings.now g.world
  term g := Surroundings.term g.world
  leader g := Surroundings.leader g.world
  receive g sender call :=
    let out := Surroundings.receive g.world sender call
    (⟨out.1⟩, spared out.2.1, out.2.2)
  supports g := Surroundings.supports g.world
  answer g h sender m :=
    let out := Surroundings.answer g.world h sender m
    (⟨out.1⟩, spared out.2.1, out.2.2)
  take g h sender m :=
    let out := Surroundings.take g.world h sender m
    (⟨out.1⟩, spared out.2.1, out.2.2)
  transmit g address call :=
    let out := Surroundings.transmit g.world address call
    (⟨out.1⟩, spared out.2.1, out.2.2)
  accept g := Surroundings.accept g.world
  freshId g := ((Surroundings.freshId g.world).1, ⟨(Surroundings.freshId g.world).2⟩)
  hear g e := ⟨Surroundings.hear g.world e⟩

omit [Surroundings ω] in
theorem sparing_spared (controls : List Control) : Sparing (spared controls) :=
  fun _ h => Bool.false_ne_true (List.mem_filter.mp h).2

theorem considerate_gentle : Considerate (Gentle ω) :=
  ⟨fun _ => sparing_spared _, fun _ _ _ => sparing_spared _, fun _ _ _ _ => sparing_spared _,
    fun _ _ _ _ => sparing_spared _, fun _ _ _ => sparing_spared _⟩

/-- A node at `b:1` beside `c:1`. -/
def mortal : Node (Gentle Rehearsal.World) :=
  alone ⟨.start .quiet .scripted []⟩ "b:1" ⟨10, 10, []⟩
    (.new { (default : Membership) with members := ["b:1", "c:1"] })

/-- The node has been started and shut down, and a pass comes after that. -/
def outlived : Node (Gentle Rehearsal.World) :=
  (mortal.start.1.shutdown.1.reconcile { (default : Membership) with members := ["d:1"] }).1

/-- The member that came too late is registered and closed, the one that went is closed, and the
local one is where it was. -/
theorem late_member_closed :
    outlived.registry.get? "b:1" = some 0
    ∧ outlived.registry.get? "d:1" = some 2 ∧ outlived.isClosed 2 = true
    ∧ outlived.registry.get? "c:1" = none ∧ outlived.isClosed 1 = true := by
  have hbuilt : build ⟨[], some "b:1", 1⟩ ⟨10, 10⟩
      (.new { (default : Membership) with members := ["b:1", "c:1"] })
      (fun _ => ⟨.start .quiet .scripted []⟩) = .ok mortal := by rfl
  obtain ⟨address, hmembers, hkept, hway⟩ := registered_iff_open hbuilt
  obtain rfl : "b:1" = address := congrArg Member.address (List.cons.inj hmembers).1
  have hlived : Lived mortal outlived :=
    .happened (e := .reconciled { (default : Membership) with members := ["d:1"] })
      (.shut (.happened (e := .started) .built trivial)) (by rfl)
  obtain ⟨⟨n, u, k⟩, hleads, rfl, hstep⟩ := (hway considerate_gentle).2 outlived hlived
  obtain ⟨-, hhome, -, hlive, hsettled⟩ := hkept _ hleads
  have hadded : outlived.registry.get? "d:1" = some 2 := by decide +kernel
  have hgone : outlived.registry.get? "c:1" = none := by decide +kernel
  have hmade : outlived.member? 1 = some ⟨"c:1", .unknown, none, true⟩ := by rfl
  have hover : outlived.lifetimeOver = true := by rfl
  refine ⟨hhome, hadded, (hlive _ 2 hadded).trans hover, hgone, ?_⟩
  rcases hsettled (hstep.underway_eq_none (by rfl)) 1 _ hmade with hregistered | hclosed
  · rw [hgone] at hregistered
    cases hregistered
  · exact hclosed

end Conclave.Node

import Conclave.Node.Lifecycle
import Conclave.Rehearsal.World

/-!
# What a pass brings about

A pass is a fold over its chores, and every chore looks at one address. `Discharged` and `Enlisted`
list what a chore can do. What it does to the set of registered addresses and to the report is an
equation for each kind of chore (`contains_discharge`, `effect_discharge` and the same for
`enlist`), and the equations of the two halves of a pass follow by induction on their addresses.
Together they say what any pass does to a registry that passes have led to (`Attained`): the registry
is the desired one as far as members can be made, and the report tells the difference.

Whether a member can be made for an address must not change while a pass is under way
(`FixedFactory`). Between two passes it may.
-/

namespace Conclave.Node

variable {ω : Type}

/-! ## Registered addresses -/

namespace Registry

theorem isLocal_iff {r : Registry} {address : String} :
    r.isLocal address = true ↔ address = r.localAddress := by
  rw [isLocal, beq_iff_eq, eq_comm]

theorem isSome_get? (r : Registry) (address : String) :
    (r.get? address).isSome = r.contains address := rfl

theorem contains_insert (r : Registry) (address : String) (id : MemberId) (other : String) :
    (r.insert address id).contains other = (r.contains other || other == address) := by
  rw [← isSome_get?, get?_insert]
  by_cases h : other = address
  · subst h
    cases hr : r.contains other <;> simp [isSome_get?, hr]
  · simp [h, isSome_get?]

theorem contains_remove (r : Registry) (address other : String) :
    (r.remove address).contains other
      = (r.contains other && !(other == address && !r.isLocal address)) := by
  rw [← isSome_get?, get?_remove]
  by_cases h : other = address
  · subst h
    cases hl : r.isLocal other <;> simp [isSome_get?]
  · simp [h, isSome_get?]

theorem contains_new (address : String) (id : MemberId) (metadata : Wire.Metadata)
    (networks : Ip.AccessList) (other : String) :
    (new address id metadata networks).contains other = (other == address) := by
  rw [new, contains, StringMap.contains, StringMap.get?_insert]
  by_cases h : other = address <;> simp [h]

theorem ascending_addresses (r : Registry) : r.addresses.Pairwise (· < ·) :=
  List.pairwise_map.mpr r.handles.ascending

theorem nodup_addresses (r : Registry) : r.addresses.Nodup := by
  refine r.ascending_addresses.imp ?_
  rintro a _ hlt rfl
  exact String.lt_irrefl a hlt

/-- Two registries agree but for the members that are registered. -/
structure SameTerms (r r' : Registry) : Prop where
  localAddress : r'.localAddress = r.localAddress
  metadata : r'.metadata = r.metadata
  networks : r'.networks = r.networks

namespace SameTerms

theorem refl (r : Registry) : SameTerms r r := ⟨rfl, rfl, rfl⟩

theorem trans {r₁ r₂ r₃ : Registry} (h : SameTerms r₁ r₂) (h' : SameTerms r₂ r₃) :
    SameTerms r₁ r₃ :=
  ⟨h'.localAddress.trans h.localAddress, h'.metadata.trans h.metadata,
    h'.networks.trans h.networks⟩

theorem isLocal {r r' : Registry} (h : SameTerms r r') (address : String) :
    r'.isLocal address = r.isLocal address := by
  rw [Registry.isLocal, Registry.isLocal, h.localAddress]

end SameTerms

theorem sameTerms_insert (r : Registry) (address : String) (id : MemberId) :
    SameTerms r (r.insert address id) := by
  unfold insert
  split <;> exact ⟨rfl, rfl, rfl⟩

theorem sameTerms_remove (r : Registry) (address : String) : SameTerms r (r.remove address) := by
  unfold remove
  split <;> exact ⟨rfl, rfl, rfl⟩

end Registry

open Registry (SameTerms)

/-! ## Chores -/

variable [Surroundings ω]

/-- Whether a member can be made for an address. -/
def accepts (n : Node ω) (address : String) : Bool :=
  (Surroundings.accept n.world address).isOk

/-- Whether a pass is to remove an address. -/
def dismisses (n : Node ω) (desired : List String) (address : String) : Bool :=
  n.registry.contains address && !desired.contains address && !n.registry.isLocal address

/-- What becomes of a registered address that a pass looks at. -/
inductive Discharged (n : Node ω) (desired : List String) (address : String) :
    Node ω × Effect → Prop where
  | kept : n.dismisses desired address = false → Discharged n desired address (n, .nothing)
  | removed {id : MemberId} : n.dismisses desired address = true →
      n.registry.get? address = some id →
      Discharged n desired address
        ({ n with registry := n.registry.remove address }.updateMember id Member.close,
          .changed (.removed address))

/-- What becomes of a desired address that a pass looks at. -/
inductive Enlisted (n : Node ω) (address : String) : Node ω × Effect → Prop where
  | present : n.registry.contains address = true → Enlisted n address (n, .nothing)
  | refused : n.registry.contains address = false → n.accepts address = false →
      Enlisted n address (n, .failed address)
  | added : n.registry.contains address = false → n.accepts address = true →
      Enlisted n address
        ({ n with
            members := n.members ++ [Member.new address]
            registry := n.registry.insert address n.members.length }, .changed (.added address))

omit [Surroundings ω] in
theorem discharge_discharged (n : Node ω) (desired : List String) (address : String) :
    Discharged n desired address (n.discharge desired address) := by
  rw [discharge]
  split
  · rename_i h
    refine .kept ?_
    rw [Bool.or_eq_true] at h
    rcases h with h | h <;> simp only [dismisses, h, Bool.not_true, Bool.and_false, Bool.false_and]
  · rename_i h
    rw [Bool.or_eq_true, not_or, Bool.not_eq_true, Bool.not_eq_true] at h
    split
    · rename_i hget
      refine .kept ?_
      rw [dismisses, ← Registry.isSome_get?, hget]
      rfl
    · rename_i id hget
      refine .removed ?_ hget
      rw [dismisses, ← Registry.isSome_get?, hget, h.1, h.2]
      rfl

theorem enlist_enlisted (n : Node ω) (address : String) :
    Enlisted n address (n.enlist address) := by
  rw [enlist]
  split
  · rename_i h
    exact .present h
  · rename_i h
    rw [Bool.not_eq_true] at h
    cases ha : Surroundings.accept n.world address with
    | error fault =>
        rw [makeMember, ha]
        exact .refused h (by rw [accepts, ha]; rfl)
    | ok _ =>
        rw [makeMember, ha]
        exact .added h (by rw [accepts, ha]; rfl)

omit [Surroundings ω] in
theorem contains_discharge (n : Node ω) (desired : List String) (address other : String) :
    (n.discharge desired address).1.registry.contains other
      = (n.registry.contains other && !(other == address && n.dismisses desired address)) := by
  have hd := discharge_discharged n desired address
  generalize n.discharge desired address = out at hd ⊢
  cases hd with
  | kept h => simp [h]
  | removed h hget =>
      have hlocal : n.registry.isLocal address = false := by
        simp only [dismisses, Bool.and_eq_true, Bool.not_eq_true'] at h
        exact h.2
      have hremoved := Registry.contains_remove n.registry address other
      rw [hlocal] at hremoved
      rw [h]
      exact hremoved

omit [Surroundings ω] in
theorem effect_discharge (n : Node ω) (desired : List String) (address : String) :
    (n.discharge desired address).2
      = if n.dismisses desired address then .changed (.removed address) else .nothing := by
  have hd := discharge_discharged n desired address
  generalize n.discharge desired address = out at hd ⊢
  cases hd with
  | kept h => rw [h]; rfl
  | removed h hget => rw [h]; rfl

theorem contains_enlist (n : Node ω) (address other : String) :
    (n.enlist address).1.registry.contains other
      = (n.registry.contains other || (other == address && n.accepts address)) := by
  have he := enlist_enlisted n address
  generalize n.enlist address = out at he ⊢
  cases he with
  | present h =>
      by_cases ho : other = address
      · subst ho
        simp [h]
      · simp [ho]
  | refused h ha => simp [ha]
  | added h ha =>
      rw [ha, Bool.and_true]
      exact Registry.contains_insert ..

theorem effect_enlist (n : Node ω) (address : String) :
    (n.enlist address).2
      = if n.registry.contains address then .nothing
        else if n.accepts address then .changed (.added address) else .failed address := by
  have he := enlist_enlisted n address
  generalize n.enlist address = out at he ⊢
  cases he with
  | present h => rw [h]; rfl
  | refused h ha => rw [h, ha]; rfl
  | added h ha => rw [h, ha]; rfl

/-- A chore leaves alone everything around the node, its channel, and everything in the registry but
the members. -/
theorem perform_leaves (n : Node ω) (desired : List String) (c : Chore) :
    (n.perform desired c).1.world = n.world ∧ (n.perform desired c).1.channel = n.channel
    ∧ SameTerms n.registry (n.perform desired c).1.registry := by
  cases c with
  | discharge address =>
      have hd := discharge_discharged n desired address
      rw [perform]
      generalize n.discharge desired address = out at hd ⊢
      cases hd with
      | kept h => exact ⟨rfl, rfl, .refl _⟩
      | removed h hget => exact ⟨rfl, rfl, Registry.sameTerms_remove ..⟩
  | enlist address =>
      have he := enlist_enlisted n address
      rw [perform]
      generalize n.enlist address = out at he ⊢
      cases he with
      | present h => exact ⟨rfl, rfl, .refl _⟩
      | refused h ha => exact ⟨rfl, rfl, .refl _⟩
      | added h ha => exact ⟨rfl, rfl, Registry.sameTerms_insert ..⟩

/-! ## Chores and their announcements -/

/-- Whether a member can be made for an address does not depend on what the listeners hear from
now on. -/
def FixedFactory (n : Node ω) : Prop :=
  ∀ (es : List MemberEvent) (address : String),
    Surroundings.accept (es.foldl Surroundings.hear n.world) address
      = Surroundings.accept n.world address

theorem registry_step (desired : List String) (s : Node ω × Report) (c : Chore) :
    (step desired s c).1.registry = (s.1.perform desired c).1.registry := by
  rw [step]
  rcases s.1.perform desired c with ⟨n, effect⟩
  cases effect <;> rfl

theorem report_step (desired : List String) (s : Node ω × Report) (c : Chore) :
    (step desired s c).2 = s.2.note (s.1.perform desired c).2 := rfl

theorem FixedFactory.of_world {n m : Node ω} (hf : n.FixedFactory) (h : m.world = n.world) :
    m.FixedFactory ∧ m.accepts = n.accepts := by
  refine ⟨fun es a => ?_, funext fun a => ?_⟩
  · rw [h]
    exact hf es a
  · rw [accepts, h, accepts]

theorem FixedFactory.announce {n : Node ω} (hf : n.FixedFactory) (e : MemberEvent) :
    (n.announce e).FixedFactory ∧ (n.announce e).accepts = n.accepts := by
  have hnow := hf [e]
  exact ⟨fun es a => (hf (e :: es) a).trans (hnow a).symm,
    funext fun a => congrArg Except.isOk (hnow a)⟩

theorem fixedFactory_step {s : Node ω × Report} (hf : s.1.FixedFactory) (desired : List String)
    (c : Chore) :
    (step desired s c).1.FixedFactory ∧ (step desired s c).1.accepts = s.1.accepts := by
  have hn := hf.of_world (perform_leaves s.1 desired c).1
  rw [step]
  generalize s.1.perform desired c = out at hn ⊢
  obtain ⟨n, effect⟩ := out
  cases effect with
  | changed e =>
      have he := hn.1.announce e
      exact ⟨he.1, he.2.trans hn.2⟩
  | nothing => exact hn
  | failed address => exact hn

/-! ## The two halves of a pass -/

section

variable (desired : List String)

theorem foldl_step_terms (cs : List Chore) (s : Node ω × Report) :
    SameTerms s.1.registry (cs.foldl (step desired) s).1.registry := by
  induction cs generalizing s with
  | nil => exact .refl _
  | cons c r ih =>
      have hfirst := (perform_leaves s.1 desired c).2.2
      rw [← registry_step] at hfirst
      exact hfirst.trans (ih (step desired s c))

theorem fixedFactory_foldl (cs : List Chore) {s : Node ω × Report} (hf : s.1.FixedFactory) :
    (cs.foldl (step desired) s).1.FixedFactory
    ∧ (cs.foldl (step desired) s).1.accepts = s.1.accepts := by
  induction cs generalizing s with
  | nil => exact ⟨hf, rfl⟩
  | cons c r ih =>
      have hfirst := fixedFactory_step hf desired c
      have hrest := ih hfirst.1
      exact ⟨hrest.1, hrest.2.trans hfirst.2⟩

theorem dismisses_step_discharge (s : Node ω × Report) (address other : String) :
    (step desired s (.discharge address)).1.dismisses desired other
      = (s.1.dismisses desired other && !(other == address)) := by
  have hterms := (perform_leaves s.1 desired (.discharge address)).2.2
  rw [dismisses, registry_step, hterms.isLocal, perform, contains_discharge]
  by_cases ho : other = address
  · subst ho
    rw [dismisses]
    cases s.1.registry.contains other <;> cases desired.contains other <;>
      cases s.1.registry.isLocal other <;> simp
  · simp [dismisses, beq_false_of_ne ho]

theorem contains_discharges (as : List String) (s : Node ω × Report) (other : String) :
    ((as.map .discharge).foldl (step desired) s).1.registry.contains other
      = (s.1.registry.contains other && !(as.contains other && s.1.dismisses desired other)) := by
  induction as generalizing s with
  | nil => simp
  | cons a r ih =>
      rw [List.map_cons, List.foldl_cons, ih, dismisses_step_discharge, registry_step, perform,
        contains_discharge, List.contains_cons]
      by_cases ho : other = a
      · subst ho
        simp
      · simp [beq_false_of_ne ho]

/-- The addresses that are looked at are removed in their order. -/
theorem report_discharges {as : List String} (has : as.Nodup) (s : Node ω × Report) :
    ((as.map .discharge).foldl (step desired) s).2
      = { s.2 with removed := s.2.removed ++ as.filter (s.1.dismisses desired) } := by
  induction as generalizing s with
  | nil => simp
  | cons a r ih =>
      obtain ⟨ha, hr⟩ := List.nodup_cons.mp has
      have hrest : r.filter ((step desired s (.discharge a)).1.dismisses desired)
          = r.filter (s.1.dismisses desired) := by
        refine List.filter_congr fun b hb => ?_
        have hne : b ≠ a := fun h => ha (h ▸ hb)
        rw [dismisses_step_discharge]
        simp [hne]
      rw [List.map_cons, List.foldl_cons, ih hr, hrest, report_step, perform, effect_discharge,
        List.filter_cons]
      split <;> simp [Report.note]

theorem contains_enlists (as : List String) {s : Node ω × Report} (hf : s.1.FixedFactory)
    (other : String) :
    ((as.map .enlist).foldl (step desired) s).1.registry.contains other
      = (s.1.registry.contains other || (as.contains other && s.1.accepts other)) := by
  induction as generalizing s with
  | nil => simp
  | cons a r ih =>
      obtain ⟨hfixed, haccepts⟩ := fixedFactory_step hf desired (.enlist a)
      rw [List.map_cons, List.foldl_cons, ih hfixed, haccepts, registry_step, perform,
        contains_enlist, List.contains_cons]
      by_cases ho : other = a
      · subst ho
        cases s.1.registry.contains other <;> simp
      · simp [beq_false_of_ne ho]

/-- An address is added where it first occurs, and fails wherever it occurs. -/
theorem report_enlists (as : List String) {s : Node ω × Report} (hf : s.1.FixedFactory) :
    ((as.map .enlist).foldl (step desired) s).2
      = { s.2 with
          added := s.2.added ++
            (as.filter fun a => !s.1.registry.contains a && s.1.accepts a).eraseDups
          failed := s.2.failed ++
            as.filter fun a => !s.1.registry.contains a && !s.1.accepts a } := by
  induction as generalizing s with
  | nil => simp
  | cons a r ih =>
      have hcontains : ∀ b, (step desired s (.enlist a)).1.registry.contains b
          = (s.1.registry.contains b || (b == a && s.1.accepts a)) := by
        intro b
        rw [registry_step, perform, contains_enlist]
      obtain ⟨hfixed, haccepts⟩ := fixedFactory_step hf desired (.enlist a)
      rw [List.map_cons, List.foldl_cons, ih hfixed, haccepts, report_step, perform, effect_enlist]
      simp only [hcontains]
      cases hc : s.1.registry.contains a with
      | true =>
          have hsame : ∀ b, (s.1.registry.contains b || (b == a && s.1.accepts a))
              = s.1.registry.contains b := by
            intro b
            by_cases hb : b = a
            · rw [hb, hc]
              rfl
            · rw [beq_false_of_ne hb, Bool.false_and, Bool.or_false]
          simp [hsame, hc, Report.note]
      | false =>
          cases ha : s.1.accepts a with
          | false => simp [hc, ha, Report.note]
          | true =>
              -- what is left to be added is what would be added anyway, but for the address itself
              have hadded : (r.filter fun b => !(s.1.registry.contains b || (b == a && true))
                    && s.1.accepts b)
                  = (r.filter fun b => !s.1.registry.contains b && s.1.accepts b).filter
                    fun b => !b == a := by
                rw [List.filter_filter]
                refine List.filter_congr fun b _ => ?_
                cases s.1.registry.contains b <;> cases b == a <;> simp
              have hfailed : (r.filter fun b => !(s.1.registry.contains b || (b == a && true))
                    && !s.1.accepts b)
                  = r.filter fun b => !s.1.registry.contains b && !s.1.accepts b := by
                refine List.filter_congr fun b _ => ?_
                by_cases hb : b = a
                · rw [hb, ha]
                  simp
                · rw [beq_false_of_ne hb]
                  simp
              rw [hadded, hfailed]
              simp [hc, ha, Report.note, List.eraseDups_cons]

end

/-! ## Whole passes -/

section

variable (n : Node ω) (desired : Membership)

theorem reconcile_halves : n.reconcile desired
    = (desired.members.map .enlist).foldl (step desired.members)
        ((n.registry.addresses.map .discharge).foldl (step desired.members)
          (n.adopt desired, Report.empty)) := by
  rw [reconcile, chores, List.foldl_append]

/-- A pass puts the desired metadata and networks in force, and changes the members beside. -/
theorem reconcile_terms : SameTerms (n.registry.adopt desired) (n.reconcile desired).1.registry :=
  foldl_step_terms desired.members (n.chores desired.members) (n.adopt desired, Report.empty)

theorem reconcile_localAddress :
    (n.reconcile desired).1.registry.localAddress = n.registry.localAddress :=
  (reconcile_terms n desired).localAddress

/-- What is desired already is not dismissed. -/
theorem contains_between {address : String} (h : address ∈ desired.members) :
    ((n.registry.addresses.map .discharge).foldl (step desired.members)
        (n.adopt desired, Report.empty)).1.registry.contains address
      = n.registry.contains address := by
  have hkept : (n.adopt desired).dismisses desired.members address = false := by
    simp [dismisses, h]
  rw [contains_discharges, hkept, Bool.and_false, Bool.not_false, Bool.and_true]
  rfl

variable (hf : n.FixedFactory)
include hf

theorem fixedFactory_reconcile :
    (n.reconcile desired).1.FixedFactory ∧ (n.reconcile desired).1.accepts = n.accepts :=
  fixedFactory_foldl (s := (n.adopt desired, Report.empty)) desired.members
    (n.chores desired.members) hf

theorem fixedFactory_between :
    ((n.registry.addresses.map .discharge).foldl (step desired.members)
        (n.adopt desired, Report.empty)).1.FixedFactory
    ∧ ((n.registry.addresses.map .discharge).foldl (step desired.members)
        (n.adopt desired, Report.empty)).1.accepts = n.accepts :=
  fixedFactory_foldl (s := (n.adopt desired, Report.empty)) desired.members _ hf

theorem contains_reconcile (address : String) :
    (n.reconcile desired).1.registry.contains address
      = (n.registry.contains address && !n.dismisses desired.members address
        || desired.members.contains address && n.accepts address) := by
  have hlooked : (n.registry.addresses.contains address && n.dismisses desired.members address)
      = n.dismisses desired.members address := by
    cases hd : n.dismisses desired.members address with
    | false => exact Bool.and_false _
    | true =>
        simp only [dismisses, Bool.and_eq_true] at hd
        rw [Bool.and_true, List.contains_iff_mem, Registry.mem_addresses]
        exact hd.1.1
  obtain ⟨hfixed, haccepts⟩ := fixedFactory_between n desired hf
  rw [reconcile_halves, contains_enlists _ _ hfixed, contains_discharges, haccepts]
  exact congrArg (fun b => n.registry.contains address && !b
    || desired.members.contains address && n.accepts address) hlooked

theorem report_reconcile : (n.reconcile desired).2
    = { added := (desired.members.filter fun a =>
          !n.registry.contains a && n.accepts a).eraseDups
        removed := n.registry.addresses.filter (n.dismisses desired.members)
        failed := desired.members.filter fun a => !n.registry.contains a && !n.accepts a } := by
  obtain ⟨hfixed, haccepts⟩ := fixedFactory_between n desired hf
  -- the second half looks at desired addresses only, and these are registered as they were
  have hfilter : ∀ q : Bool → String → Bool,
      desired.members.filter (fun a => q (((n.registry.addresses.map .discharge).foldl
          (step desired.members) (n.adopt desired, Report.empty)).1.registry.contains a) a)
        = desired.members.filter fun a => q (n.registry.contains a) a := fun q =>
    List.filter_congr fun a ha => by rw [contains_between n desired ha]
  rw [reconcile_halves, report_enlists _ _ hfixed, haccepts,
    report_discharges _ n.registry.nodup_addresses, hfilter fun b a => !b && n.accepts a,
    hfilter fun b a => !b && !n.accepts a]
  rfl

end

/-! ## What passes lead to -/

/-- The registries that passes lead to from a new one. What surrounds the node may be another one
in every pass. -/
inductive Reconciled (ω : Type) [Surroundings ω] : Registry → Prop where
  | new (address : String) (id : MemberId) (metadata : Wire.Metadata)
      (networks : Ip.AccessList) : Reconciled ω (Registry.new address id metadata networks)
  | pass (n : Node ω) (desired : Membership) : Reconciled ω n.registry →
      Reconciled ω (n.reconcile desired).1.registry

theorem contains_local_perform (n : Node ω) (desired : List String) (c : Chore)
    (h : n.registry.contains n.registry.localAddress = true) :
    (n.perform desired c).1.registry.contains n.registry.localAddress = true := by
  cases c with
  | discharge address =>
      have hkept : ∀ b, (n.registry.localAddress == b && n.dismisses desired b) = false := by
        intro b
        by_cases hb : n.registry.localAddress = b
        · simp [dismisses, Registry.isLocal, hb]
        · rw [beq_false_of_ne hb, Bool.false_and]
      rw [perform, contains_discharge, h, hkept]
      rfl
  | enlist address => rw [perform, contains_enlist, h, Bool.true_or]

theorem contains_local_foldl (desired : List String) (cs : List Chore) (s : Node ω × Report)
    (h : s.1.registry.contains s.1.registry.localAddress = true) :
    (cs.foldl (step desired) s).1.registry.contains s.1.registry.localAddress = true := by
  induction cs generalizing s with
  | nil => exact h
  | cons c r ih =>
      have hlocal := (perform_leaves s.1 desired c).2.2.localAddress
      rw [← registry_step] at hlocal
      rw [List.foldl_cons, ← hlocal]
      refine ih (step desired s c) ?_
      rw [hlocal, registry_step]
      exact contains_local_perform s.1 desired c h

theorem contains_local_reconcile (n : Node ω) (desired : Membership)
    (h : n.registry.contains n.registry.localAddress = true) :
    (n.reconcile desired).1.registry.contains n.registry.localAddress = true :=
  contains_local_foldl desired.members (n.chores desired.members) (n.adopt desired, Report.empty) h

/-- The local member is always registered. -/
theorem Reconciled.contains_local {r : Registry} (h : Reconciled ω r) :
    r.contains r.localAddress = true := by
  induction h with
  | new address id metadata networks => rw [Registry.contains_new]; exact beq_self_eq_true address
  | pass n desired hn ih =>
      rw [reconcile_localAddress n desired]
      exact contains_local_reconcile n desired ih

/-- Several passes in a row. -/
def passes (n : Node ω) (ds : List Membership) : Node ω := ds.foldl (fun n d => (n.reconcile d).1) n

/-- The local member is registered, and every other registered address is one that a member can be
made for. -/
def Sound (factory : String → Bool) (r : Registry) : Prop :=
  r.contains r.localAddress = true
  ∧ ∀ a, r.contains a = true → a = r.localAddress ∨ factory a = true

omit [Surroundings ω] in
theorem sound_new (factory : String → Bool) (address : String) (id : MemberId)
    (metadata : Wire.Metadata) (networks : Ip.AccessList) :
    Sound factory (Registry.new address id metadata networks) := by
  refine ⟨?_, fun a ha => .inl ?_⟩
  · exact (Registry.contains_new ..).trans (beq_self_eq_true address)
  · exact beq_iff_eq.mp ((Registry.contains_new ..).symm.trans ha)

section

variable {n : Node ω} (hf : n.FixedFactory) (desired : Membership)
include hf

/-- What is registered after a pass, told by addresses. -/
theorem mem_addresses_reconcile
    (hlocal : n.registry.contains n.registry.localAddress = true) (a : String) :
    a ∈ (n.reconcile desired).1.registry.addresses ↔ a = n.registry.localAddress
      ∨ a ∈ desired.members ∧ (a ∈ n.registry.addresses ∨ n.accepts a = true) := by
  rw [Registry.mem_addresses, Registry.mem_addresses, contains_reconcile n desired hf]
  simp only [dismisses, Bool.or_eq_true, Bool.and_eq_true, Bool.not_eq_true', Bool.and_eq_false_iff,
    Bool.not_eq_false', List.contains_iff_mem, Registry.isLocal_iff]
  constructor
  · rintro (⟨hc, (hn | hd) | hl⟩ | ⟨hd, ha⟩)
    · rw [hc] at hn
      cases hn
    · exact .inr ⟨hd, .inl hc⟩
    · exact .inl hl
    · exact .inr ⟨hd, .inr ha⟩
  · rintro (hl | ⟨hd, hc | ha⟩)
    · exact .inl ⟨hl ▸ hlocal, .inr hl⟩
    · exact .inl ⟨hc, .inl (.inr hd)⟩
    · exact .inr ⟨hd, ha⟩

theorem sound_reconcile (h : Sound n.accepts n.registry) :
    Sound n.accepts (n.reconcile desired).1.registry := by
  refine ⟨?_, fun a ha => ?_⟩
  · rw [reconcile_localAddress n desired]
    exact contains_local_reconcile n desired h.1
  · rw [contains_reconcile n desired hf, Bool.or_eq_true, Bool.and_eq_true, Bool.and_eq_true] at ha
    rw [reconcile_localAddress n desired]
    rcases ha with ⟨hc, -⟩ | ⟨-, ha⟩
    · exact h.2 a hc
    · exact .inr ha

/-- A pass of a sound registry leads to what is desired as far as members can be made. -/
theorem mem_addresses_reconcile_of_sound (h : Sound n.accepts n.registry) (a : String) :
    a ∈ (n.reconcile desired).1.registry.addresses ↔
      a = n.registry.localAddress ∨ a ∈ desired.members ∧ n.accepts a = true := by
  rw [mem_addresses_reconcile hf desired h.1]
  constructor
  · rintro (hl | ⟨hd, hc | ha⟩)
    · exact .inl hl
    · exact (h.2 a (Registry.mem_addresses.mp hc)).imp_right fun ha => ⟨hd, ha⟩
    · exact .inr ⟨hd, ha⟩
  · rintro (hl | ⟨hd, ha⟩)
    · exact .inl hl
    · exact .inr ⟨hd, .inr ha⟩

end

/-- What passes keep from a new registry on. -/
theorem passes_keep (ds : List Membership) {n : Node ω} (hf : n.FixedFactory)
    (h : Sound n.accepts n.registry) :
    (n.passes ds).FixedFactory ∧ (n.passes ds).accepts = n.accepts
    ∧ (n.passes ds).registry.localAddress = n.registry.localAddress
    ∧ Sound n.accepts (n.passes ds).registry := by
  induction ds generalizing n with
  | nil => exact ⟨hf, rfl, rfl, h⟩
  | cons d r ih =>
      obtain ⟨hfixed, haccepts⟩ := fixedFactory_reconcile n d hf
      have hnext := sound_reconcile hf d h
      rw [← haccepts] at hnext
      obtain ⟨hlater, hsame, haddress, hsound⟩ := ih hfixed hnext
      rw [haccepts] at hsame hsound
      exact ⟨hlater, hsame, haddress.trans (reconcile_localAddress n d), hsound⟩

/-! ## Repeated passes -/

/-- Chores that change nothing leave the node as it is. -/
theorem foldl_step_idle (desired : List String) (cs : List Chore) (s : Node ω × Report)
    (h : ∀ c ∈ cs, (s.1.perform desired c).1 = s.1 ∧ ∀ e, (s.1.perform desired c).2 ≠ .changed e) :
    (cs.foldl (step desired) s).1 = s.1 := by
  induction cs generalizing s with
  | nil => rfl
  | cons c r ih =>
      obtain ⟨hnode, heffect⟩ := h c (List.mem_cons_self ..)
      have hstep : (step desired s c).1 = s.1 := by
        rw [step]
        generalize s.1.perform desired c = out at hnode heffect ⊢
        obtain ⟨n, effect⟩ := out
        cases effect with
        | changed e => exact absurd rfl (heffect e)
        | nothing => exact hnode
        | failed address => exact hnode
      rw [List.foldl_cons, ih _ fun d hd => by rw [hstep]; exact h d (List.mem_cons_of_mem _ hd)]
      exact hstep

omit [Surroundings ω] in
theorem discharge_of_not_dismisses {n : Node ω} {desired : List String} {address : String}
    (h : n.dismisses desired address = false) :
    n.discharge desired address = (n, .nothing) := by
  have hd := discharge_discharged n desired address
  generalize n.discharge desired address = out at hd ⊢
  cases hd with
  | kept => rfl
  | removed h' => rw [h] at h'; cases h'

theorem enlist_of_contains_or_not_accepts {n : Node ω} {address : String}
    (h : n.registry.contains address = true ∨ n.accepts address = false) :
    (n.enlist address).1 = n ∧ ∀ e, (n.enlist address).2 ≠ .changed e := by
  have he := enlist_enlisted n address
  generalize n.enlist address = out at he ⊢
  cases he with
  | present => exact ⟨rfl, fun _ h => nomatch h⟩
  | refused => exact ⟨rfl, fun _ h => nomatch h⟩
  | added hc ha => rw [hc, ha] at h; simp at h

section

variable (n : Node ω) (desired : Membership) (hf : n.FixedFactory)
include hf

/-- After a pass nothing is left to be removed. -/
theorem dismisses_reconcile (address : String) :
    (n.reconcile desired).1.dismisses desired.members address = false := by
  have hlocal : (n.reconcile desired).1.registry.isLocal address = n.registry.isLocal address :=
    (reconcile_terms n desired).isLocal address
  rw [dismisses, contains_reconcile n desired hf, hlocal, dismisses]
  cases n.registry.contains address <;> cases desired.members.contains address <;>
    cases n.registry.isLocal address <;> simp

/-- After a pass a desired address is registered unless no member can be made for it. -/
theorem contains_reconcile_desired {address : String} (h : address ∈ desired.members) :
    (n.reconcile desired).1.registry.contains address
      = (n.registry.contains address || n.accepts address) := by
  simp [contains_reconcile n desired hf, dismisses, h]

/-- The same pass once more changes nothing at all, and it fails where the first one did. -/
theorem reconcile_again : (n.reconcile desired).1.reconcile desired
    = ((n.reconcile desired).1, ⟨[], [], (n.reconcile desired).2.failed⟩) := by
  obtain ⟨hfixed, haccepts⟩ := fixedFactory_reconcile n desired hf
  have hcontains : ∀ a ∈ desired.members, (n.reconcile desired).1.registry.contains a
      = (n.registry.contains a || n.accepts a) :=
    fun a ha => contains_reconcile_desired n desired hf ha
  have hdismisses := dismisses_reconcile n desired hf
  have hterms := reconcile_terms n desired
  refine Prod.ext ?_ ?_
  · have hadopt : (n.reconcile desired).1.adopt desired = (n.reconcile desired).1 := by
      rw [adopt, Registry.adopt, ← show _ = desired.metadata from hterms.metadata,
        ← show _ = desired.networks from hterms.networks]
    rw [reconcile, hadopt]
    refine foldl_step_idle desired.members _ ((n.reconcile desired).1, Report.empty) fun c hc => ?_
    rw [chores, List.mem_append, List.mem_map, List.mem_map] at hc
    rcases hc with ⟨a, -, rfl⟩ | ⟨a, ha, rfl⟩
    · rw [perform, discharge_of_not_dismisses (hdismisses a)]
      exact ⟨rfl, fun _ h => nomatch h⟩
    · refine enlist_of_contains_or_not_accepts ?_
      rw [hcontains a ha, haccepts]
      cases n.accepts a <;> simp
  · rw [report_reconcile _ desired hfixed, report_reconcile n desired hf, haccepts, Report.mk.injEq]
    refine ⟨?_, ?_, List.filter_congr fun a ha => ?_⟩
    · rw [List.filter_eq_nil_iff.mpr, List.eraseDups_nil]
      intro a ha
      rw [hcontains a ha]
      cases n.accepts a <;> simp
    · refine List.filter_eq_nil_iff.mpr fun a _ => ?_
      rw [hdismisses a]
      exact Bool.false_ne_true
    · rw [hcontains a ha]
      cases n.registry.contains a <;> cases n.accepts a <;> rfl

end

/-! ## The whole effect -/

/-- The whole effect of a pass on the registry, and what it reports. -/
structure Attained (n : Node ω) (desired : Membership) (out : Node ω × Report) : Prop where
  localAddress : out.1.registry.localAddress = n.registry.localAddress
  metadata : out.1.registry.metadata = desired.metadata
  networks : out.1.registry.networks = desired.networks
  registered : ∀ a, a ∈ out.1.registry.addresses ↔ a = n.registry.localAddress
    ∨ a ∈ desired.members ∧ (a ∈ n.registry.addresses ∨ n.accepts a = true)
  ascending : out.2.removed.Pairwise (· < ·)
  removed : out.2.removed = n.registry.addresses.filter fun a =>
    a ∉ desired.members ∧ a ≠ n.registry.localAddress
  added : out.2.added = (desired.members.filter fun a =>
    a ∉ n.registry.addresses ∧ a ∈ out.1.registry.addresses).eraseDups
  failed : out.2.failed = desired.members.filter fun a =>
    a ∉ n.registry.addresses ∧ n.accepts a = false

theorem attained_reconcile {n : Node ω} (hf : n.FixedFactory)
    (hlocal : n.registry.contains n.registry.localAddress = true) (desired : Membership) :
    Attained n desired (n.reconcile desired) := by
  have hterms := reconcile_terms n desired
  have hregistered := fun a => mem_addresses_reconcile hf desired hlocal a
  have hreport := report_reconcile n desired hf
  refine ⟨reconcile_localAddress n desired, hterms.metadata, hterms.networks, hregistered,
    ?_, ?_, ?_, ?_⟩
  · rw [hreport]
    exact n.registry.ascending_addresses.filter _
  · rw [hreport]
    refine List.filter_congr fun a ha => ?_
    rw [Registry.mem_addresses] at ha
    rw [Bool.eq_iff_iff, decide_eq_true_eq, dismisses, ha, Bool.true_and, Bool.and_eq_true,
      Bool.not_eq_true', Bool.not_eq_true', ← Bool.not_eq_true, ← Bool.not_eq_true,
      List.contains_iff_mem, Registry.isLocal_iff]
  · rw [hreport]
    refine congrArg List.eraseDups (List.filter_congr fun a ha => ?_)
    rw [Bool.eq_iff_iff, decide_eq_true_eq, hregistered, Registry.mem_addresses, Bool.and_eq_true,
      Bool.not_eq_true', ← Bool.not_eq_true]
    refine and_congr_right fun hc => ?_
    constructor
    · exact fun h => .inr ⟨ha, .inr h⟩
    · rintro (rfl | ⟨-, h | h⟩)
      · exact absurd hlocal hc
      · exact absurd h hc
      · exact h
  · rw [hreport]
    refine List.filter_congr fun a _ => ?_
    rw [Bool.eq_iff_iff, decide_eq_true_eq, Registry.mem_addresses, Bool.and_eq_true,
      Bool.not_eq_true', Bool.not_eq_true', Bool.not_eq_true]

/-- A pass from a registry that passes led to does all that it is to do, and doing it again adds
nothing. From a new registry on, only the last of several passes counts. -/
theorem pass_attains {n : Node ω} (hn : Reconciled ω n.registry) (hf : n.FixedFactory)
    (desired : Membership) :
    Attained n desired (n.reconcile desired)
    ∧ (n.reconcile desired).1.reconcile desired
        = ((n.reconcile desired).1, ⟨[], [], (n.reconcile desired).2.failed⟩)
    ∧ ∀ address id metadata networks,
        n.registry = Registry.new address id metadata networks →
        ∀ (earlier : List Membership) (a : String),
          a ∈ (n.passes (earlier ++ [desired])).registry.addresses ↔
            a = address ∨ a ∈ desired.members ∧ n.accepts a = true := by
  have hlocal := hn.contains_local
  refine ⟨attained_reconcile hf hlocal desired, reconcile_again n desired hf, ?_⟩
  intro address id metadata networks hnew earlier a
  have haddress : n.registry.localAddress = address := by rw [hnew]; rfl
  have hsound : Sound n.accepts n.registry := by rw [hnew]; exact sound_new ..
  obtain ⟨hfixed, haccepts, hsame, hkept⟩ := passes_keep earlier hf hsound
  rw [← haccepts] at hkept
  have hlast := mem_addresses_reconcile_of_sound hfixed desired hkept a
  rw [hsame, haddress, haccepts] at hlast
  rw [passes, List.foldl_append]
  exact hlast

/-- A node at `b:1` that can make no member for `d:1`. -/
def picky : Node Rehearsal.World :=
  alone (.start .quiet .scripted ["d:1"]) "b:1" ⟨10, 10, []⟩ (.new default)

def pickyFirst : Membership := { (default : Membership) with members := ["c:1", "b:1"] }

def pickySecond : Membership :=
  { (default : Membership) with members := ["d:1", "a:1", "a:1", "d:1"] }

theorem fixedFactory_rehearsal (n : Node Rehearsal.World) : n.FixedFactory := by
  intro es a
  induction es generalizing n with
  | nil => rfl
  | cons e r ih => exact ih (n.announce e)

/-- What is desired twice is added once or fails twice, and what is no longer desired goes. -/
theorem picky_passes :
    ((picky.passes [pickyFirst]).reconcile pickySecond).2 = ⟨["a:1"], ["c:1"], ["d:1", "d:1"]⟩
    ∧ ∀ a, a ∈ (picky.passes [pickyFirst, pickySecond]).registry.addresses ↔
        a = "b:1" ∨ a = "a:1" := by
  have hnew : Reconciled Rehearsal.World picky.registry := .new ..
  have hlater : Reconciled Rehearsal.World (picky.passes [pickyFirst]).registry := .pass _ _ hnew
  obtain ⟨hpass, -, -⟩ := pass_attains hlater (fixedFactory_rehearsal _) pickySecond
  obtain ⟨-, -, hlast⟩ := pass_attains hnew (fixedFactory_rehearsal _) pickySecond
  refine ⟨?_, fun a => (hlast _ _ _ _ rfl [pickyFirst] a).trans (or_congr_right ?_)⟩
  · rw [Report.mk.injEq]
    exact ⟨hpass.added.trans (by decide +kernel), hpass.removed.trans (by decide +kernel),
      hpass.failed.trans (by decide +kernel)⟩
  · constructor
    · rintro ⟨ha, haccepts⟩
      simp only [pickySecond, List.mem_cons, List.not_mem_nil, or_false] at ha
      rcases ha with rfl | rfl | rfl | rfl
      · exact absurd haccepts (by decide)
      · rfl
      · rfl
      · exact absurd haccepts (by decide)
    · rintro rfl
      decide

end Conclave.Node

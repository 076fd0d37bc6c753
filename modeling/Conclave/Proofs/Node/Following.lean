import Conclave.Proofs.Node.Passes
import Conclave.Proofs.Outcome
import Mathlib.Logic.Relation

/-!
# Following what is published

A node reads the current membership when it is started, and from then on its loop waits for news,
reads what is current by then, and makes a pass. In the meantime memberships may be published, the
publishers may all go, and other things may happen at the node. `Move` lists these steps one by one,
so that anything may happen between two of them, and `Reached` are the scenes that they lead to.

What a subscriber has not seen yet is the reason why no membership is lost. The invariant
(`OnCourse`) says for each phase what holds if the subscriber has seen the last version: the value
at hand is the last one, the pass under way is the one for it, and after the pass the registry fits
it (`Fits`). A loop that waits without news has seen the last version, and so has one that ended
because nothing more can come.

`Move` is finer than the functions that make up a node. That these are made of moves is shown at the
end (`moves_start`, `moves_turn`).
-/

namespace Conclave.Node

open Conclave.Membership (Change Channel Subscription)
open Relation (ReflTransGen)

variable {ω : Type}

/-! ## Scenes -/

/-- How far a node is in following the channel. -/
inductive Phase where
  /-- The node has not been started. -/
  | idle (s : Subscription)
  /-- A membership has been read, and its pass has not begun. -/
  | taken (s : Subscription) (desired : Membership)
  /-- A pass between two chores. -/
  | passing (s : Subscription) (desired : List String) (chores : List Chore)
  /-- A pass before an announcement. -/
  | telling (s : Subscription) (pass : Pass)
  | waiting (s : Subscription)
  /-- There is news, and it has not been read. -/
  | woken (s : Subscription)
  | ended

def Follower.phase : Follower → Phase
  | .idle s => .idle s
  | .following s => .waiting s
  | .reconciling s p => .telling s p
  | .ended => .ended

/-- The phase after a chore. -/
def Effect.phase (s : Subscription) (desired : List String) (chores : List Chore) : Effect → Phase
  | .changed e => .telling s ⟨desired, e, chores⟩
  | _ => .passing s desired chores

/-- A node in a phase, and the last membership whose publication was not refused. -/
structure Scene (ω : Type) where
  node : Node ω
  phase : Phase
  latest : Membership

/-- The scene of a node between two turns of its loop. -/
def scene (n : Node ω) (latest : Membership) : Scene ω := ⟨n, n.follower.phase, latest⟩

/-- A loop that waits without news, or that has ended. -/
def Phase.AtRest (c : Channel) : Phase → Prop
  | .waiting s => ¬ s.seen < c.version
  | .ended => True
  | _ => False

/-- A channel with one of its subscriptions before a node is built, and the last membership whose
publication was not refused. -/
inductive Offered (first : Membership) : Channel → Subscription → Membership → Prop where
  | opened : Offered first (.new first) (Channel.new first).subscribe first
  | published {c : Channel} {s : Subscription} {latest : Membership} (desired : Membership) :
      c.isOpen = true → Offered first c s latest →
      Offered first (c.publish desired).1 s (if (c.publish desired).2 then desired else latest)
  | subscribed {c : Channel} {s : Subscription} {latest : Membership} :
      c.isOpen = true → Offered first c s latest → Offered first c c.subscribe latest
  | deserted {c : Channel} {s : Subscription} {latest : Membership} :
      Offered first c s latest → Offered first c.close s latest

variable [Surroundings ω]

/-- A node that has just been built. A member can be made for the addresses of `factory`. -/
inductive Built (factory : String → Bool) (first : Membership) : Scene ω → Prop where
  | mk {host : Host} {memory : Memory} {channel : Channel} {prepare : String → ω}
      {s : Subscription} {latest : Membership} {n : Node ω} : Offered first channel s latest →
      build host memory channel prepare = .ok n → n.accepts = factory →
      Built factory first ⟨{ n with follower := .idle s }, .idle s, latest⟩

/-- One step, of the node or beside it. Everything that has nothing to do with the registry and the
channel is a step aside. -/
inductive Move (factory : String → Bool) : Scene ω → Scene ω → Prop where
  | published {n : Node ω} {p : Phase} {l : Membership} (desired : Membership) :
      n.channel.isOpen = true → Move factory ⟨n, p, l⟩
        ⟨n.obey (.publish desired), p, if (n.channel.publish desired).2 then desired else l⟩
  | deserted {n : Node ω} {p : Phase} {l : Membership} :
      Move factory ⟨n, p, l⟩ ⟨{ n with channel := n.channel.close }, p, l⟩
  | aside {n n' : Node ω} {p : Phase} {l : Membership} : n'.registry = n.registry →
      n'.channel = n.channel → (n.lifetimeOver = true → n'.lifetimeOver = true) →
      n'.accepts = factory → Move factory ⟨n, p, l⟩ ⟨n', p, l⟩
  | started {n : Node ω} {s : Subscription} {l : Membership} :
      Move factory ⟨n, .idle s, l⟩ ⟨n, .taken s n.channel.current, l⟩
  | begun {n : Node ω} {s : Subscription} {d l : Membership} : Move factory ⟨n, .taken s d, l⟩
      ⟨n.adopt d, .passing s d.members (n.chores d.members), l⟩
  | performed {n : Node ω} {s : Subscription} {ds : List String} {c : Chore} {r : List Chore}
      {l : Membership} : Move factory ⟨n, .passing s ds (c :: r), l⟩
        ⟨(n.perform ds c).1, (n.perform ds c).2.phase s ds r, l⟩
  | told {n : Node ω} {s : Subscription} {p : Pass} {l : Membership} :
      (n.announce p.unannounced).accepts = factory → Move factory ⟨n, .telling s p, l⟩
        ⟨n.announce p.unannounced, .passing s p.desired p.chores, l⟩
  | finished {n : Node ω} {s : Subscription} {ds : List String} {l : Membership} :
      Move factory ⟨n, .passing s ds [], l⟩ ⟨n, .waiting s, l⟩
  | woken {n : Node ω} {s s' : Subscription} {d l : Membership} :
      n.channel.next s = (s', .changed d) → Move factory ⟨n, .waiting s, l⟩ ⟨n, .woken s', l⟩
  | read {n : Node ω} {s : Subscription} {l : Membership} : Move factory ⟨n, .woken s, l⟩
      ⟨n, .taken n.channel.subscribe n.channel.current, l⟩
  | closed {n : Node ω} {s s' : Subscription} {l : Membership} :
      n.channel.next s = (s', .closed) → Move factory ⟨n, .waiting s, l⟩ ⟨n, .ended, l⟩
  | stopped {n : Node ω} {s : Subscription} {l : Membership} : n.lifetimeOver = true →
      Move factory ⟨n, .waiting s, l⟩ ⟨n, .ended, l⟩

/-- What steps of any kind and in any order lead to. -/
def Reached (factory : String → Bool) (first : Membership) (x : Scene ω) : Prop :=
  ∃ x₀, Built factory first x₀ ∧ ReflTransGen (Move factory) x₀ x

/-! ## Chores that are left -/

/-- The registry is what a membership asks for, as far as members can be made. -/
structure Fits (factory : String → Bool) (r : Registry) (desired : Membership) : Prop where
  metadata : r.metadata = desired.metadata
  networks : r.networks = desired.networks
  registered : ∀ a, a ∈ r.addresses ↔
    a = r.localAddress ∨ a ∈ desired.members ∧ factory a = true

/-- What a pass is yet to do is among the chores that are left. -/
structure Midway (factory : String → Bool) (r : Registry) (desired : List String)
    (chores : List Chore) : Prop where
  discharge : ∀ a, r.contains a = true →
    a = r.localAddress ∨ a ∈ desired ∨ .discharge a ∈ chores
  enlist : ∀ a ∈ desired, factory a = true → r.contains a = true ∨ .enlist a ∈ chores
  desired : ∀ a, .enlist a ∈ chores → a ∈ desired

section

variable {factory : String → Bool} {n : Node ω} {desired : List String}

theorem sound_perform (hn : n.accepts = factory) (h : Sound factory n.registry) (c : Chore) :
    Sound factory (n.perform desired c).1.registry := by
  obtain ⟨hlocal, hmade⟩ := h
  have hterms := (perform_leaves n desired c).2.2
  refine ⟨?_, fun a ha => ?_⟩
  · rw [hterms.localAddress]
    exact contains_local_perform n desired c hlocal
  · rw [hterms.localAddress]
    cases c with
    | discharge address =>
        rw [perform, contains_discharge, Bool.and_eq_true] at ha
        exact hmade a ha.1
    | enlist address =>
        rw [perform, contains_enlist, Bool.or_eq_true, Bool.and_eq_true, beq_iff_eq] at ha
        rcases ha with ha | ⟨rfl, ha⟩
        · exact hmade a ha
        · exact .inr (hn ▸ ha)

omit [Surroundings ω] in
theorem midway_chores (factory : String → Bool) (n : Node ω) (desired : List String) :
    Midway factory n.registry desired (n.chores desired) where
  discharge := fun a ha => .inr (.inr (List.mem_append_left _
    (List.mem_map_of_mem (Registry.mem_addresses.mpr ha))))
  enlist := fun a ha _ => .inr (List.mem_append_right _ (List.mem_map_of_mem ha))
  desired := by
    intro a ha
    simp only [chores, List.mem_append, List.mem_map, reduceCtorEq, and_false, exists_false,
      false_or] at ha
    obtain ⟨b, hb, heq⟩ := ha
    exact Chore.enlist.inj heq ▸ hb

theorem midway_perform (hn : n.accepts = factory) {c : Chore} {r : List Chore}
    (h : Midway factory n.registry desired (c :: r)) :
    Midway factory (n.perform desired c).1.registry desired r := by
  have hterms := (perform_leaves n desired c).2.2
  refine ⟨fun a ha => ?_, fun a ha hmade => ?_,
    fun a ha => h.desired a (List.mem_cons_of_mem _ ha)⟩
  · rw [hterms.localAddress]
    cases c with
    | discharge address =>
        rw [perform, contains_discharge, Bool.and_eq_true, Bool.not_eq_true'] at ha
        obtain ⟨hold, hkept⟩ := ha
        rcases h.discharge a hold with hl | hd | hc
        · exact .inl hl
        · exact .inr (.inl hd)
        · rcases List.mem_cons.mp hc with hc | hc
          · -- the address was looked at and is still there, so it is desired or local
            obtain rfl := Chore.discharge.inj hc
            rw [beq_self_eq_true, Bool.true_and, dismisses, hold, Bool.true_and,
              Bool.and_eq_false_iff, Bool.not_eq_false', Bool.not_eq_false',
              List.contains_iff_mem, Registry.isLocal_iff] at hkept
            rcases hkept with hd | hl
            · exact .inr (.inl hd)
            · exact .inl hl
          · exact .inr (.inr hc)
    | enlist address =>
        rw [perform, contains_enlist, Bool.or_eq_true, Bool.and_eq_true, beq_iff_eq] at ha
        rcases ha with ha | ⟨rfl, -⟩
        · rcases h.discharge a ha with hl | hd | hc
          · exact .inl hl
          · exact .inr (.inl hd)
          · exact .inr (.inr ((List.mem_cons.mp hc).resolve_left (by simp)))
        · exact .inr (.inl (h.desired a (List.mem_cons_self ..)))
  · cases c with
    | discharge address =>
        rcases h.enlist a ha hmade with hold | hc
        · refine .inl ?_
          rw [perform, contains_discharge, hold, Bool.true_and, Bool.not_eq_true']
          by_cases hb : a = address
          · subst hb
            simp [dismisses, ha]
          · rw [beq_false_of_ne hb, Bool.false_and]
        · exact .inr ((List.mem_cons.mp hc).resolve_left (by simp))
    | enlist address =>
        rw [perform, contains_enlist, hn]
        rcases h.enlist a ha hmade with hold | hc
        · exact .inl (by rw [hold, Bool.true_or])
        · rcases List.mem_cons.mp hc with hc | hc
          · obtain rfl := Chore.enlist.inj hc
            exact .inl (by rw [hmade, beq_self_eq_true, Bool.true_and, Bool.or_true])
          · exact .inr hc

omit [Surroundings ω] in
/-- A pass without chores left is over. -/
theorem registered_of_midway {r : Registry} (hs : Sound factory r)
    (h : Midway factory r desired []) (a : String) :
    a ∈ r.addresses ↔ a = r.localAddress ∨ a ∈ desired ∧ factory a = true := by
  rw [Registry.mem_addresses]
  constructor
  · intro ha
    rcases hs.2 a ha with hl | hmade
    · exact .inl hl
    · rcases h.discharge a ha with hl | hd | hc
      · exact .inl hl
      · exact .inr ⟨hd, hmade⟩
      · cases hc
  · rintro (rfl | ⟨hd, hmade⟩)
    · exact hs.1
    · exact (h.enlist a hd hmade).resolve_right (List.not_mem_nil)

end

/-! ## What holds in every scene -/

/-- What holds in the middle of a pass. -/
structure InPass (factory : String → Bool) (n : Node ω) (s : Subscription) (desired : List String)
    (chores : List Chore) : Prop where
  seen : s.seen ≤ n.channel.version
  latest : s.seen = n.channel.version → desired = n.channel.current.members
    ∧ n.registry.metadata = n.channel.current.metadata
    ∧ n.registry.networks = n.channel.current.networks
  midway : Midway factory n.registry desired chores

/-- What the phase of a node says about its registry and its channel. -/
def Abreast (factory : String → Bool) (n : Node ω) : Phase → Prop
  | .idle s => s.seen ≤ n.channel.version
  | .taken s desired => s.seen ≤ n.channel.version
      ∧ (s.seen = n.channel.version → desired = n.channel.current)
  | .passing s desired chores => InPass factory n s desired chores
  | .telling s p => InPass factory n s p.desired p.chores
  | .waiting s => s.seen ≤ n.channel.version
      ∧ (s.seen = n.channel.version → Fits factory n.registry n.channel.current)
  | .woken s => s.seen ≤ n.channel.version
  | .ended => n.lifetimeOver = true
      ∨ n.channel.isOpen = false ∧ Fits factory n.registry n.channel.current

/-- The invariant of all scenes. -/
structure OnCourse (factory : String → Bool) (x : Scene ω) : Prop where
  current : x.node.channel.current = x.latest
  accepts : x.node.accepts = factory
  sound : Sound factory x.node.registry
  abreast : Abreast factory x.node x.phase

section

variable {factory : String → Bool} {n n' : Node ω} {p : Phase}

omit [Surroundings ω] in
/-- What a phase says stays true when nothing is published. -/
theorem abreast_of_same (hregistry : n'.registry = n.registry)
    (hcurrent : n'.channel.current = n.channel.current)
    (hversion : n'.channel.version = n.channel.version)
    (hopen : n.channel.isOpen = false → n'.channel.isOpen = false)
    (hlifetime : n.lifetimeOver = true → n'.lifetimeOver = true) (h : Abreast factory n p) :
    Abreast factory n' p := by
  have hpass : ∀ {s desired chores}, InPass factory n s desired chores →
      InPass factory n' s desired chores := by
    rintro s desired chores ⟨hseen, hlatest, hmidway⟩
    refine ⟨hversion ▸ hseen, ?_, hregistry ▸ hmidway⟩
    rw [hversion, hcurrent, hregistry]
    exact hlatest
  cases p with
  | idle s => rw [Abreast, hversion]; exact h
  | taken s desired => rw [Abreast, hversion, hcurrent]; exact h
  | passing s desired chores => exact hpass h
  | telling s pass => exact hpass h
  | waiting s => rw [Abreast, hversion, hcurrent, hregistry]; exact h
  | woken s => rw [Abreast, hversion]; exact h
  | ended =>
      rw [Abreast, hcurrent, hregistry]
      exact h.imp hlifetime (And.imp_left hopen)

omit [Surroundings ω] in
/-- Once something is published, every subscriber is behind. -/
theorem abreast_of_news (hregistry : n'.registry = n.registry)
    (hversion : n'.channel.version = n.channel.version + 1) (hopen : n.channel.isOpen = true)
    (hlifetime : n'.lifetimeOver = n.lifetimeOver) (h : Abreast factory n p) :
    Abreast factory n' p := by
  have hlater : ∀ {s : Subscription}, s.seen ≤ n.channel.version →
      s.seen ≤ n'.channel.version := by
    intro s hs
    omega
  have hbehind : ∀ {s : Subscription} {q : Prop}, s.seen ≤ n.channel.version →
      s.seen = n'.channel.version → q := by
    intro s q hs heq
    omega
  cases p with
  | idle s => exact hlater h
  | taken s desired => exact ⟨hlater h.1, hbehind h.1⟩
  | passing s desired chores => exact ⟨hlater h.seen, hbehind h.seen, hregistry ▸ h.midway⟩
  | telling s pass => exact ⟨hlater h.seen, hbehind h.seen, hregistry ▸ h.midway⟩
  | waiting s => exact ⟨hlater h.1, hbehind h.1⟩
  | woken s => exact hlater h
  | ended =>
      rcases h with h | ⟨h, -⟩
      · exact .inl (hlifetime.trans h)
      · rw [hopen] at h
        cases h

theorem onCourse_published {l : Membership} (desired : Membership)
    (hopen : n.channel.isOpen = true) (h : OnCourse factory ⟨n, p, l⟩) :
    OnCourse factory ⟨n.obey (.publish desired), p,
      if (n.channel.publish desired).2 then desired else l⟩ := by
  by_cases hsame : n.channel.current = desired
  · have hpublish : n.channel.publish desired = (n.channel, false) := by
      rw [Channel.publish, if_pos hsame]
    rw [obey, hpublish]
    exact ⟨h.current, h.accepts, h.sound, h.abreast⟩
  · have hpublish : n.channel.publish desired
        = ({ n.channel with current := desired, version := n.channel.version + 1 }, true) := by
      rw [Channel.publish, if_neg hsame]
    rw [obey, hpublish]
    exact ⟨rfl, h.accepts, h.sound, abreast_of_news (n := n) rfl rfl hopen rfl h.abreast⟩

theorem onCourse_performed {s : Subscription} {desired : List String} {c : Chore} {r : List Chore}
    {l : Membership} (h : OnCourse factory ⟨n, .passing s desired (c :: r), l⟩) :
    OnCourse factory ⟨(n.perform desired c).1, (n.perform desired c).2.phase s desired r, l⟩ := by
  obtain ⟨hcurrent, haccepts, hsound, hpass⟩ := h
  obtain ⟨hworld, hchannel, hterms⟩ := perform_leaves n desired c
  have hinpass : InPass factory (n.perform desired c).1 s desired r := by
    refine ⟨hchannel ▸ hpass.seen, ?_, midway_perform haccepts hpass.midway⟩
    rw [hchannel, hterms.metadata, hterms.networks]
    exact hpass.latest
  refine ⟨hchannel ▸ hcurrent, ?_, sound_perform haccepts hsound c, ?_⟩
  · rw [← haccepts]
    funext a
    rw [accepts, hworld, accepts]
  · cases (n.perform desired c).2 <;> exact hinpass

end

omit [Surroundings ω] in
theorem read_of_changed {c : Channel} {s s' : Subscription} {d : Membership}
    (h : c.next s = (s', .changed d)) : s' = c.subscribe ∧ d = c.current := by
  rw [Channel.next] at h
  split at h
  · obtain ⟨hseen, hvalue⟩ := Prod.mk.inj h
    exact ⟨hseen.symm, (Change.changed.inj hvalue).symm⟩
  · split at h <;> cases congrArg Prod.snd h

omit [Surroundings ω] in
theorem seen_of_closed {c : Channel} {s s' : Subscription} (h : c.next s = (s', .closed)) :
    ¬ s.seen < c.version ∧ c.isOpen = false := by
  rw [Channel.next] at h
  split at h
  · cases congrArg Prod.snd h
  · rename_i hseen
    split at h
    · cases congrArg Prod.snd h
    · rename_i hopen
      exact ⟨hseen, Bool.not_eq_true _ ▸ hopen⟩

omit [Surroundings ω] in
theorem fits_of_inPass {factory : String → Bool} {n : Node ω} {s : Subscription}
    {desired : List String} (hsound : Sound factory n.registry)
    (h : InPass factory n s desired []) (hseen : s.seen = n.channel.version) :
    Fits factory n.registry n.channel.current := by
  obtain ⟨rfl, hmetadata, hnetworks⟩ := h.latest hseen
  exact ⟨hmetadata, hnetworks, registered_of_midway hsound h.midway⟩

theorem onCourse_move {factory : String → Bool} {x y : Scene ω} (h : OnCourse factory x)
    (hmove : Move factory x y) : OnCourse factory y := by
  obtain ⟨hcurrent, haccepts, hsound, habreast⟩ := h
  cases hmove with
  | published desired hopen =>
      exact onCourse_published desired hopen ⟨hcurrent, haccepts, hsound, habreast⟩
  | @deserted n p l =>
      exact ⟨hcurrent, haccepts, hsound,
        abreast_of_same (n := n) rfl rfl rfl (fun _ => rfl) id habreast⟩
  | aside hregistry hchannel hlifetime hfactory =>
      refine ⟨?_, hfactory, ?_, abreast_of_same hregistry ?_ ?_ ?_ hlifetime habreast⟩
      · rw [hchannel]; exact hcurrent
      · rw [hregistry]; exact hsound
      · rw [hchannel]
      · rw [hchannel]
      · rw [hchannel]; exact id
  | started => exact ⟨hcurrent, haccepts, hsound, habreast, fun _ => rfl⟩
  | @begun n s d l =>
      refine ⟨hcurrent, haccepts, hsound, habreast.1, fun hseen => ?_,
        midway_chores factory (n.adopt d) d.members⟩
      have hsame : d = n.channel.current := habreast.2 hseen
      exact ⟨congrArg Membership.members hsame, congrArg Membership.metadata hsame,
        congrArg Membership.networks hsame⟩
  | performed => exact onCourse_performed ⟨hcurrent, haccepts, hsound, habreast⟩
  | told hfactory =>
      exact ⟨hcurrent, hfactory, hsound, habreast.seen, habreast.latest, habreast.midway⟩
  | finished =>
      exact ⟨hcurrent, haccepts, hsound, habreast.seen, fits_of_inPass hsound habreast⟩
  | woken hnext =>
      refine ⟨hcurrent, haccepts, hsound, ?_⟩
      rw [(read_of_changed hnext).1]
      exact Nat.le_refl _
  | read => exact ⟨hcurrent, haccepts, hsound, Nat.le_refl _, fun _ => rfl⟩
  | closed hnext =>
      obtain ⟨hseen, hclosed⟩ := seen_of_closed hnext
      exact ⟨hcurrent, haccepts, hsound,
        .inr ⟨hclosed, habreast.2 (Nat.le_antisymm habreast.1 (Nat.not_lt.mp hseen))⟩⟩
  | stopped hover => exact ⟨hcurrent, haccepts, hsound, .inl hover⟩

/-! ## Built nodes -/

omit [Surroundings ω] in
theorem offered_invariant {first latest : Membership} {c : Channel} {s : Subscription}
    (h : Offered first c s latest) : c.current = latest ∧ s.seen ≤ c.version := by
  induction h with
  | opened => exact ⟨rfl, Nat.le_refl _⟩
  | @published c s latest desired hopen hoffered ih =>
      rw [Channel.publish]
      split
      · exact ih
      · exact ⟨rfl, Nat.le_succ_of_le ih.2⟩
  | subscribed hopen hoffered ih => exact ⟨ih.1, Nat.le_refl _⟩
  | deserted hoffered ih => exact ih

theorem alone_of_build {host : Host} {memory : Memory} {channel : Channel} {prepare : String → ω}
    {n : Node ω} (h : build host memory channel prepare = .ok n) :
    ∃ address sightings, n = alone (prepare address) address sightings channel := by
  obtain ⟨address, -, h⟩ := exists_of_bind_eq_ok h
  obtain ⟨_, -, h⟩ := exists_of_bind_eq_ok h
  split at h
  · cases h
  · rename_i sightings _
    exact ⟨address, sightings, (Except.ok.inj h).symm⟩

theorem onCourse_built {factory : String → Bool} {first : Membership} {x : Scene ω}
    (h : Built factory first x) : OnCourse factory x := by
  obtain ⟨hoffered, hbuild, haccepts⟩ := h
  obtain ⟨address, sightings, rfl⟩ := alone_of_build hbuild
  obtain ⟨hcurrent, hseen⟩ := offered_invariant hoffered
  exact ⟨hcurrent, haccepts, sound_new .., hseen⟩

theorem onCourse_of_reached {factory : String → Bool} {first : Membership} {x : Scene ω}
    (h : Reached factory first x) : OnCourse factory x := by
  obtain ⟨x₀, hbuilt, hmoves⟩ := h
  induction hmoves with
  | refl => exact onCourse_built hbuilt
  | tail _ hmove ih => exact onCourse_move ih hmove

/-! ## The functions that make up a node -/

/-- Whether a member can be made for an address is told by `factory`, now and after any news that
the listeners hear. -/
def Makes (factory : String → Bool) (n : Node ω) : Prop := n.FixedFactory ∧ n.accepts = factory

theorem Makes.of_world {factory : String → Bool} {n m : Node ω} (h : Makes factory n)
    (hworld : m.world = n.world) : Makes factory m :=
  ⟨(h.1.of_world hworld).1, (h.1.of_world hworld).2.trans h.2⟩

theorem Makes.announce {factory : String → Bool} {n : Node ω} (h : Makes factory n)
    (e : MemberEvent) : Makes factory (n.announce e) :=
  ⟨(h.1.announce e).1, (h.1.announce e).2.trans h.2⟩

/-- The phase in which a turn leaves a pass. -/
def Phase.left (s : Subscription) (desired : List String) : Option Pass → Phase
  | none => .passing s desired []
  | some p => .telling s p

section

variable {factory : String → Bool} {n : Node ω} (l : Membership)

theorem moves_advance (s : Subscription) (desired : List String) (cs : List Chore) (a : Allowance)
    (h : Makes factory n) :
    ReflTransGen (Move factory) ⟨n, .passing s desired cs, l⟩
      ⟨(advance desired a cs n).1, .left s desired (advance desired a cs n).2.2, l⟩
    ∧ Makes factory (advance desired a cs n).1 := by
  induction cs generalizing a n with
  | nil => exact ⟨.refl, h⟩
  | cons c r ih =>
      have hmove : Move factory ⟨n, .passing s desired (c :: r), l⟩ _ := .performed
      have hmakes := h.of_world (perform_leaves n desired c).1
      rw [advance]
      generalize n.perform desired c = out at hmove hmakes ⊢
      obtain ⟨m, effect⟩ := out
      cases effect with
      | nothing => exact (ih a hmakes).imp_left (.head hmove)
      | failed address => exact (ih a hmakes).imp_left (.head hmove)
      | changed e =>
          dsimp only
          cases a.spend? 1 with
          | none => exact ⟨.single hmove, hmakes⟩
          | some a =>
              have htold := hmakes.announce e
              exact (ih a htold).imp_left fun hrest => .head hmove (.head (.told htold.2) hrest)

theorem moves_follows (s : Subscription) (desired : List String) (a : Allowance) (p : Option Pass)
    (h : Makes factory n) :
    ReflTransGen (Move factory) ⟨n, .left s desired p, l⟩ (scene (follows s (n, a, p)).1 l)
    ∧ Makes factory (follows s (n, a, p)).1 := by
  cases p with
  | none => exact ⟨.head .finished (.single (.aside rfl rfl id h.2)), h⟩
  | some p => exact ⟨.single (.aside rfl rfl id h.2), h⟩

/-- A pass, from reading a membership to the end of the turn. -/
theorem moves_pass (s : Subscription) (d : Membership) (a : Allowance) (h : Makes factory n) :
    let x := follows s (advance d.members a (n.chores d.members) (n.adopt d))
    ReflTransGen (Move factory) ⟨n, .taken s d, l⟩ (scene x.1 l) ∧ Makes factory x.1 := by
  obtain ⟨hadvance, hmakes⟩ := moves_advance l s d.members (n.chores d.members) a
    (h.of_world (m := n.adopt d) rfl)
  obtain ⟨hfollows, hend⟩ := moves_follows l s d.members
    (advance d.members a (n.chores d.members) (n.adopt d)).2.1
    (advance d.members a (n.chores d.members) (n.adopt d)).2.2 hmakes
  exact ⟨.head .begun (hadvance.trans hfollows), hend⟩

theorem moves_start (h : Makes factory n) :
    ReflTransGen (Move factory) (scene n l) (scene n.start.1 l) ∧ Makes factory n.start.1 := by
  cases hfollower : n.follower with
  | idle s =>
      have hpass := moves_pass l s n.channel.current none h
      rw [advance_none_chores] at hpass
      rw [start, scene, hfollower]
      exact hpass.imp_left (.head .started)
  | _ =>
      rw [start, hfollower]
      exact ⟨.refl, h⟩

theorem moves_follow (a : Allowance) (h : Makes factory n) :
    ReflTransGen (Move factory) (scene n l) (scene (n.follow a).1 l)
    ∧ Makes factory (n.follow a).1 := by
  have hended : Move factory ⟨n, .ended, l⟩ (scene { n with follower := .ended } l) :=
    .aside rfl rfl id h.2
  cases hfollower : n.follower with
  | idle s =>
      rw [follow, hfollower]
      exact ⟨.refl, h⟩
  | ended =>
      rw [follow, hfollower]
      exact ⟨.refl, h⟩
  | reconciling s p =>
      rw [follow, hfollower, scene, hfollower]
      dsimp only
      rw [resume]
      cases a.spend? 1 with
      | none => exact ⟨.single (.aside rfl rfl id h.2), h⟩
      | some a =>
          have htold := h.announce p.unannounced
          obtain ⟨hadvance, hmakes⟩ := moves_advance l s p.desired p.chores a htold
          obtain ⟨hfollows, hend⟩ := moves_follows l s p.desired
            (advance p.desired a p.chores (n.announce p.unannounced)).2.1
            (advance p.desired a p.chores (n.announce p.unannounced)).2.2 hmakes
          exact ⟨.head (.told htold.2) (hadvance.trans hfollows), hend⟩
  | following s =>
      rw [follow, hfollower]
      dsimp only
      split
      · rename_i hover
        rw [scene, hfollower]
        exact ⟨.head (.stopped hover) (.single hended), h⟩
      · rcases hnext : n.channel.next s with ⟨s', change⟩
        cases change with
        | pending => exact ⟨.refl, h⟩
        | closed =>
            rw [scene, hfollower]
            exact ⟨.head (.closed hnext) (.single hended), h⟩
        | changed d =>
            dsimp only
            cases a.spend? 2 with
            | none => exact ⟨.refl, h⟩
            | some a =>
                have hpass := moves_pass l s' d a h
                have hread : Move factory ⟨n, .woken s', l⟩ ⟨n, .taken s' d, l⟩ := by
                  rw [(read_of_changed hnext).1, (read_of_changed hnext).2]
                  exact .read
                rw [scene, hfollower]
                exact hpass.imp_left fun hrest => .head (.woken hnext) (.head hread hrest)

theorem moves_turn (a : Allowance) (h : Makes factory n) :
    ReflTransGen (Move factory) (scene n l) (scene (n.turn a) l) ∧ Makes factory (n.turn a) := by
  obtain ⟨hfirst, h₁⟩ := moves_follow l a h
  obtain ⟨hsecond, h₂⟩ := moves_follow l (n.follow a).2 h₁
  obtain ⟨hthird, h₃⟩ := moves_follow l ((n.follow a).1.follow (n.follow a).2).2 h₂
  exact ⟨hfirst.trans (hsecond.trans hthird), h₃⟩

end

/-! ## No update is lost -/

/-- Whatever happens in between, a node whose loop has come to rest has the registry that the last
published membership asks for. Starting a node, a turn of its loop and publishing are such
happenings. -/
theorem registry_fits_latest (factory : String → Bool) (first : Membership) :
    (∀ x : Scene ω, Reached factory first x → x.node.lifetimeOver = false →
      x.phase.AtRest x.node.channel → Fits factory x.node.registry x.latest)
    ∧ ∀ (n : Node ω) (l : Membership), Reached factory first (scene n l) → n.FixedFactory →
      Reached factory first (scene n.start.1 l)
      ∧ (∀ a, Reached factory first (scene (n.turn a) l))
      ∧ ∀ desired, n.channel.isOpen = true → Reached factory first
          (scene (n.obey (.publish desired)) (if (n.channel.publish desired).2 then desired else l))
    := by
  constructor
  · intro x hreached hlive hrest
    obtain ⟨hcurrent, -, -, habreast⟩ := onCourse_of_reached hreached
    rw [← hcurrent]
    generalize x.phase = p at hrest habreast
    cases p with
    | waiting s => exact habreast.2 (Nat.le_antisymm habreast.1 (Nat.not_lt.mp hrest))
    | ended =>
        rcases habreast with hover | ⟨-, hfits⟩
        · rw [hlive] at hover
          cases hover
        · exact hfits
    | _ => exact hrest.elim
  · intro n l hreached hfixed
    have hmakes : Makes factory n := ⟨hfixed, (onCourse_of_reached hreached).accepts⟩
    obtain ⟨x₀, hbuilt, hmoves⟩ := hreached
    exact ⟨⟨x₀, hbuilt, hmoves.trans (moves_start l hmakes).1⟩,
      fun a => ⟨x₀, hbuilt, hmoves.trans (moves_turn l a hmakes).1⟩,
      fun desired hopen => ⟨x₀, hbuilt, hmoves.tail (.published desired hopen)⟩⟩

/-- A node at `b:1` that follows a channel and can make no member for `d:1`. -/
def punctual : Node Rehearsal.World :=
  alone (.start .quiet .scripted ["d:1"]) "b:1" ⟨10, 10, []⟩ (.new pickyFirst)

theorem built_punctual : Built punctual.accepts pickyFirst (scene punctual pickyFirst) := by
  have hbuild : build ⟨[], some "b:1", 1⟩ ⟨10, 10⟩ (.new pickyFirst)
      (fun _ => .start .quiet .scripted ["d:1"]) = .ok punctual := by
    rfl
  exact .mk .opened hbuild rfl

/-- What is published while the first pass is made comes into force with the next turn. -/
theorem punctual_keeps_up :
    let started := punctual.start.1
    let turned := (started.obey (.publish pickySecond)).turn none
    turned.lifetimeOver = false ∧ turned.follower.phase.AtRest turned.channel
    ∧ Fits punctual.accepts turned.registry pickySecond := by
  have hfixed := fixedFactory_rehearsal
  obtain ⟨hfits, hreach⟩ := registry_fits_latest (ω := Rehearsal.World) punctual.accepts pickyFirst
  have hstarted := (hreach punctual pickyFirst ⟨_, built_punctual, .refl⟩ (hfixed _)).1
  have hpublished := (hreach _ _ hstarted (hfixed _)).2.2 pickySecond rfl
  have hturned := (hreach _ _ hpublished (hfixed _)).2.1 none
  have hwaiting : ((punctual.start.1.obey (.publish pickySecond)).turn none).follower
      = .following ⟨1⟩ := rfl
  have hversion : ((punctual.start.1.obey (.publish pickySecond)).turn none).channel.version
      = 1 := rfl
  have hrest : ((punctual.start.1.obey (.publish pickySecond)).turn none).follower.phase.AtRest
      ((punctual.start.1.obey (.publish pickySecond)).turn none).channel := by
    rw [hwaiting, Follower.phase, Phase.AtRest, hversion]
    decide
  exact ⟨rfl, hrest, hfits _ hturned rfl hrest⟩

end Conclave.Node

import Conclave.Node.Lifecycle
import Conclave.Proofs.Node.Passes
import Mathlib.Logic.Relation

/-!
# Passes among other tasks

`reconcile` makes a pass in one go, and the loop of a node stops at announcements only. While a pass
is under way, other tasks may look at the node at any moment, ask for passes of their own, or
change what is no business of a pass. So a pass is cut here into its single acts: the deeds, one
for each change that can be seen from outside (`Deed`), and the announcements (`Juncture.Tells`).
`Next` lets anything happen between two of them. It keeps passes apart as a lock does: whoever asks
for a pass has to wait until none is under way, and any of those who wait may be the next.

What else a situation carries is there to be talked about: all passes that were ever asked for, the
reports of those that are over, and what a listener has heard that was there from the beginning.

A chore is a few acts (`led_perform`), and so a whole pass is a way through these situations
(`leads_reconcile`). The loop, which may stop in a pass, goes the same way (`leads_advance`).
-/

namespace Conclave.Node

open Relation (ReflTransGen)

variable {ω : Type}

/-! ## The acts of a pass -/

/-- The point that a pass has come to. -/
inductive Juncture where
  /-- It has its turn, and nothing has been replaced. -/
  | entered
  /-- The metadata has been replaced, and the networks have not. -/
  | renewed
  /-- Some of the registered addresses are left to be looked at. -/
  | clearing (left : List String)
  /-- A member has been removed, and it has not been closed. -/
  | unclosed (id : MemberId) (address : String) (left : List String)
  /-- A member has been removed and closed, and the listeners have yet to hear of it. -/
  | parted (address : String) (left : List String)
  /-- Some of the desired addresses are left to be looked at. -/
  | filling (left : List String)
  /-- A member has been made, and it has not been registered. -/
  | unregistered (id : MemberId) (address : String) (left : List String)
  /-- A member has been registered, and the listeners have yet to hear of it. -/
  | joined (address : String) (left : List String)

/-- A pass that is under way. `before` is the registry that it has found, and the report is the one
so far. -/
structure Underway where
  desired : Membership
  before : Registry
  report : Report
  juncture : Juncture

def replaceMetadata (n : Node ω) (metadata : Wire.Metadata) : Node ω :=
  { n with registry := { n.registry with metadata := metadata } }

def replaceNetworks (n : Node ω) (networks : Ip.AccessList) : Node ω :=
  { n with registry := { n.registry with networks := networks } }

/-- The node without a member under an address. -/
def strike (n : Node ω) (address : String) : Node ω :=
  { n with registry := n.registry.remove address }

/-- The node with a member under an address. -/
def enroll (n : Node ω) (address : String) (id : MemberId) : Node ω :=
  { n with registry := n.registry.insert address id }

theorem get?_eq_none_of_contains {r : Registry} {a : String} (h : r.contains a = false) :
    r.get? a = none := by
  rw [← Registry.isSome_get?] at h
  exact Option.not_isSome_iff_eq_none.mp (by rw [h]; exact Bool.false_ne_true)

theorem get?_strike {n : Node ω} {a : String} (h : a ≠ n.registry.localAddress) (b : String) :
    (n.strike a).registry.get? b = if b = a then none else n.registry.get? b := by
  have hlocal : n.registry.isLocal a = false := by
    rw [← Bool.not_eq_true, Registry.isLocal_iff]
    exact h
  rw [strike, Registry.get?_remove, hlocal]
  simp

theorem get?_enroll {n : Node ω} {a : String} (h : n.registry.get? a = none) (id : MemberId)
    (b : String) :
    (n.enroll a id).registry.get? b = if b = a then some id else n.registry.get? b := by
  have habsent : n.registry.contains a = false := by
    rw [← Registry.isSome_get?, h]
    rfl
  rw [enroll, Registry.get?_insert, habsent]
  simp

/-- What is dismissed is not desired, and it is not the local member. -/
theorem of_dismisses {n : Node ω} {desired : List String} {a : String}
    (h : n.dismisses desired a = true) : a ∉ desired ∧ a ≠ n.registry.localAddress := by
  simp only [dismisses, Bool.and_eq_true, Bool.not_eq_true'] at h
  refine ⟨fun ha => ?_, fun ha => ?_⟩
  · rw [List.contains_iff_mem.mpr ha] at h
    exact Bool.noConfusion h.1.2
  · rw [Registry.isLocal_iff.mpr ha] at h
    exact Bool.noConfusion h.2

/-- What a pass keeps is desired, or it is the local member. -/
theorem of_not_dismisses {n : Node ω} {desired : List String} {a : String}
    (h : n.dismisses desired a = false) (ha : n.registry.contains a = true) :
    a = n.registry.localAddress ∨ a ∈ desired := by
  rw [dismisses, ha, Bool.true_and, Bool.and_eq_false_iff, Bool.not_eq_false', Bool.not_eq_false',
    List.contains_iff_mem, Registry.isLocal_iff] at h
  exact h.symm

/-- An announcement of a pass. -/
inductive Juncture.Tells : Juncture → MemberEvent → Juncture → Prop where
  | parted {a : String} {l : List String} : Tells (.parted a l) (.removed a) (.clearing l)
  | joined {a : String} {l : List String} : Tells (.joined a l) (.added a) (.filling l)

/-- What is left to be done between two chores. -/
inductive Juncture.Ahead (desired : List String) : Juncture → List Chore → Prop where
  | clearing (l : List String) :
      Ahead desired (.clearing l) (l.map .discharge ++ desired.map .enlist)
  | filling (l : List String) : Ahead desired (.filling l) (l.map .enlist)

variable [Surroundings ω]

/-- An act of a pass of which nobody is told, and what it adds to the report. -/
inductive Deed (n : Node ω) (d : Membership) : Juncture → Node ω → Effect → Juncture → Prop where
  | metadata : Deed n d .entered (n.replaceMetadata d.metadata) .nothing .renewed
  | networks : Deed n d .renewed (n.replaceNetworks d.networks) .nothing
      (.clearing n.registry.addresses)
  | kept {a : String} {l : List String} : n.dismisses d.members a = false →
      Deed n d (.clearing (a :: l)) n .nothing (.clearing l)
  | removed {id : MemberId} {a : String} {l : List String} : n.dismisses d.members a = true →
      n.registry.get? a = some id →
      Deed n d (.clearing (a :: l)) (n.strike a) .nothing (.unclosed id a l)
  | closed {id : MemberId} {a : String} {l : List String} :
      Deed n d (.unclosed id a l) (n.updateMember id Member.close) .nothing (.parted a l)
  | turned : Deed n d (.clearing []) n .nothing (.filling d.members)
  | present {a : String} {l : List String} : n.registry.contains a = true →
      Deed n d (.filling (a :: l)) n .nothing (.filling l)
  | refused {fault : Fault} {a : String} {l : List String} : n.registry.contains a = false →
      n.makeMember a = .error fault → Deed n d (.filling (a :: l)) n (.failed a) (.filling l)
  | made {n' : Node ω} {id : MemberId} {a : String} {l : List String} :
      n.registry.contains a = false → n.makeMember a = .ok (n', id) →
      Deed n d (.filling (a :: l)) n' .nothing (.unregistered id a l)
  | preceded {id : MemberId} {a : String} {l : List String} : n.registry.contains a = true →
      Deed n d (.unregistered id a l) n .nothing (.filling l)
  | registered {id : MemberId} {a : String} {l : List String} : n.registry.contains a = false →
      Deed n d (.unregistered id a l) (n.enroll a id) .nothing (.joined a l)

/-! ## Situations -/

/-- What has come of the passes at a node: the memberships for which passes were ever asked, those
that wait, the reports of the passes that are over, and what a listener has heard. -/
structure Minutes where
  asked : List Membership
  waiting : List Membership
  past : List (Membership × Report)
  heard : List MemberEvent

namespace Minutes

def empty : Minutes := ⟨[], [], [], []⟩

def ask (k : Minutes) (d : Membership) : Minutes :=
  { k with asked := k.asked ++ [d], waiting := k.waiting ++ [d] }

def hear (k : Minutes) (e : MemberEvent) : Minutes := { k with heard := k.heard ++ [e] }

def conclude (k : Minutes) (d : Membership) (r : Report) : Minutes :=
  { k with past := k.past ++ [(d, r)] }

end Minutes

/-- A node, the pass that is under way at it, and what has come of the others. -/
structure Situation (ω : Type) where
  node : Node ω
  underway : Option Underway
  minutes : Minutes

/-- Before anything has happened. -/
def Situation.initial (n : Node ω) : Situation ω := ⟨n, none, .empty⟩

/-- What is no business of a pass: the registry is the same, members are neither made nor closed, and
the lifetime may end but does not begin again. Once it is over, members may be closed as well. -/
structure Apart (n n' : Node ω) : Prop where
  registry : n'.registry = n.registry
  addresses : n'.members.map Member.address = n.members.map Member.address
  lifetime : n.lifetimeOver = true → n'.lifetimeOver = true
  closed : ∀ id, n.isClosed id = true → n'.isClosed id = true
  opened : ∀ id, n'.isClosed id = true → n.isClosed id = true ∨ n'.lifetimeOver = true

/-- One step, of a pass or beside it. -/
inductive Next : Situation ω → Situation ω → Prop where
  | requested {n : Node ω} {u : Option Underway} {k : Minutes} (d : Membership) :
      Next ⟨n, u, k⟩ ⟨n, u, k.ask d⟩
  | begun {n : Node ω} {k : Minutes} {ds es : List Membership} {d : Membership} :
      k.waiting = ds ++ d :: es → Next ⟨n, none, k⟩
        ⟨n, some ⟨d, n.registry, .empty, .entered⟩, { k with waiting := ds ++ es }⟩
  | done {n n' : Node ω} {k : Minutes} {d : Membership} {b : Registry} {r : Report}
      {j j' : Juncture} {e : Effect} : Deed n d j n' e j' →
      Next ⟨n, some ⟨d, b, r, j⟩, k⟩ ⟨n', some ⟨d, b, r.note e, j'⟩, k⟩
  | told {n : Node ω} {k : Minutes} {d : Membership} {b : Registry} {r : Report}
      {j j' : Juncture} {e : MemberEvent} : j.Tells e j' → Next ⟨n, some ⟨d, b, r, j⟩, k⟩
        ⟨n.announce e, some ⟨d, b, r.note (.changed e), j'⟩, k.hear e⟩
  | finished {n : Node ω} {k : Minutes} {d : Membership} {b : Registry} {r : Report} :
      Next ⟨n, some ⟨d, b, r, .filling []⟩, k⟩ ⟨n, none, k.conclude d r⟩
  | aside {n n' : Node ω} {u : Option Underway} {k : Minutes} : Apart n n' →
      Next ⟨n, u, k⟩ ⟨n', u, k⟩

/-- What steps of any kind and in any order lead to. -/
def Leads : Situation ω → Situation ω → Prop := ReflTransGen Next

/-! ## Making a member -/

theorem makeMember_ok {n n' : Node ω} {a : String} {id : MemberId}
    (h : n.makeMember a = .ok (n', id)) : n.accepts a = true
      ∧ n' = { n with members := n.members ++ [Member.new a] } ∧ id = n.members.length := by
  rw [makeMember] at h
  rw [accepts]
  cases ha : Surroundings.accept n.world a with
  | error fault =>
      rw [ha] at h
      cases h
  | ok _ =>
      rw [ha] at h
      obtain ⟨rfl, rfl⟩ := Prod.mk.inj (Except.ok.inj h)
      exact ⟨rfl, rfl, rfl⟩

/-! ## Chores as acts -/

section

variable {n : Node ω} {d : Membership} {b : Registry} {r : Report} {k : Minutes}

/-- What a chore leads to when it is done act by act: to the next chore, or before the announcement
of what it has done. -/
inductive Led (x : Situation ω) (d : Membership) (b : Registry) (r : Report) (cs : List Chore) :
    Node ω × Effect → Prop where
  | silent {n : Node ω} {e : Effect} {j : Juncture} : (∀ event, e ≠ .changed event) →
      j.Ahead d.members cs → Leads x ⟨n, some ⟨d, b, r.note e, j⟩, x.minutes⟩ →
      Led x d b r cs (n, e)
  | untold {n : Node ω} {event : MemberEvent} {j j' : Juncture} : j.Tells event j' →
      j'.Ahead d.members cs → Leads x ⟨n, some ⟨d, b, r, j⟩, x.minutes⟩ →
      Led x d b r cs (n, .changed event)

theorem nothing_ne_changed (event : MemberEvent) : Effect.nothing ≠ .changed event :=
  Effect.noConfusion

theorem failed_ne_changed (a : String) (event : MemberEvent) : Effect.failed a ≠ .changed event :=
  Effect.noConfusion

theorem Led.head {x y : Situation ω} {cs : List Chore} {out : Node ω × Effect} (hnext : Next x y)
    (hminutes : y.minutes = x.minutes) (h : Led y d b r cs out) : Led x d b r cs out := by
  cases h with
  | silent hsilent hahead hleads =>
      exact .silent hsilent hahead (hminutes ▸ .head hnext hleads)
  | untold htells hahead hleads => exact .untold htells hahead (hminutes ▸ .head hnext hleads)

theorem led_discharge (a : String) (l : List String) :
    Led ⟨n, some ⟨d, b, r, .clearing (a :: l)⟩, k⟩ d b r
      (l.map .discharge ++ d.members.map .enlist) (n.discharge d.members a) := by
  have hd := discharge_discharged n d.members a
  generalize n.discharge d.members a = out at hd ⊢
  cases hd with
  | kept hkept => exact .silent nothing_ne_changed (.clearing l) (.single (.done (.kept hkept)))
  | removed hgone hget =>
      exact .untold .parted (.clearing l)
        (.tail (.single (.done (.removed hgone hget))) (.done .closed))

theorem led_enlist (a : String) (l : List String) :
    Led ⟨n, some ⟨d, b, r, .filling (a :: l)⟩, k⟩ d b r (l.map .enlist) (n.enlist a) := by
  rw [enlist]
  split
  · rename_i hthere
    exact .silent nothing_ne_changed (.filling l) (.single (.done (.present hthere)))
  · rename_i habsent
    rw [Bool.not_eq_true] at habsent
    split
    · rename_i hmake
      exact .silent (failed_ne_changed a) (.filling l)
        (.single (.done (.refused habsent hmake)))
    · rename_i m id hmake
      obtain ⟨-, hm, -⟩ := makeMember_ok hmake
      have hstill : m.registry.contains a = false := by rw [hm]; exact habsent
      exact .untold .joined (.filling l)
        (.tail (.single (.done (.made habsent hmake))) (.done (.registered hstill)))

/-- Every chore is a few acts. -/
theorem led_perform {j : Juncture} {c : Chore} {cs : List Chore}
    (hj : j.Ahead d.members (c :: cs)) :
    Led ⟨n, some ⟨d, b, r, j⟩, k⟩ d b r cs (n.perform d.members c) := by
  generalize hcs : c :: cs = l at hj
  cases hj with
  | filling l =>
      cases l with
      | nil => cases hcs
      | cons a l =>
          obtain ⟨rfl, rfl⟩ := List.cons.inj hcs
          exact led_enlist a l
  | clearing l =>
      cases l with
      | cons a l =>
          obtain ⟨rfl, rfl⟩ := List.cons.inj hcs
          exact led_discharge a l
      | nil =>
          -- the first half is over, so the chore is the first one of the second half
          have hturned : Next ⟨n, some ⟨d, b, r, .clearing []⟩, k⟩
              ⟨n, some ⟨d, b, r, .filling d.members⟩, k⟩ := .done .turned
          cases hmembers : d.members with
          | nil =>
              rw [hmembers] at hcs
              cases hcs
          | cons a l =>
              rw [hmembers] at hcs hturned
              obtain ⟨rfl, rfl⟩ := List.cons.inj hcs
              exact (led_enlist a l).head hturned rfl

/-- Without chores left, a pass is at its end. -/
theorem leads_end {j : Juncture} (hj : j.Ahead d.members []) :
    Leads ⟨n, some ⟨d, b, r, j⟩, k⟩ ⟨n, some ⟨d, b, r, .filling []⟩, k⟩ := by
  generalize hcs : [] = l at hj
  cases hj with
  | clearing l =>
      obtain ⟨hl, hmembers⟩ := List.append_eq_nil_iff.mp hcs.symm
      obtain rfl := List.map_eq_nil_iff.mp hl
      have hturned : Next ⟨n, some ⟨d, b, r, .clearing []⟩, k⟩
          ⟨n, some ⟨d, b, r, .filling d.members⟩, k⟩ := .done .turned
      rw [List.map_eq_nil_iff.mp hmembers] at hturned
      exact .single hturned
  | filling l =>
      obtain rfl := List.map_eq_nil_iff.mp hcs.symm
      exact .refl

/-! ## Passes as acts -/

theorem leads_foldl {j : Juncture} {cs : List Chore} (hj : j.Ahead d.members cs) :
    ∃ heard, Leads ⟨n, some ⟨d, b, r, j⟩, k⟩
      ⟨(cs.foldl (step d.members) (n, r)).1,
        some ⟨d, b, (cs.foldl (step d.members) (n, r)).2, .filling []⟩,
        { k with heard := heard }⟩ := by
  induction cs generalizing n r j k with
  | nil => exact ⟨k.heard, leads_end hj⟩
  | cons c cs ih =>
      have hled := led_perform (n := n) (b := b) (r := r) (k := k) hj
      rw [List.foldl_cons, step]
      generalize n.perform d.members c = out at hled ⊢
      cases hled with
      | @silent m e _ hsilent hahead hleads =>
          obtain ⟨heard, hrest⟩ := ih (n := m) (r := r.note e) (k := k) hahead
          cases e with
          | changed event => exact absurd rfl (hsilent event)
          | nothing => exact ⟨heard, hleads.trans hrest⟩
          | failed a => exact ⟨heard, hleads.trans hrest⟩
      | @untold m event _ _ htells hahead hleads =>
          obtain ⟨heard, hrest⟩ := ih (n := m.announce event) (r := r.note (.changed event))
            (k := k.hear event) hahead
          exact ⟨heard, (hleads.tail (.told htells)).trans hrest⟩

/-- A pass that waits has its turn, up to its first chore. -/
theorem leads_turn (n : Node ω) (k : Minutes) {ds es : List Membership}
    (h : k.waiting = ds ++ d :: es) :
    Leads ⟨n, none, k⟩ ⟨n.adopt d,
      some ⟨d, n.registry, .empty, .clearing n.registry.addresses⟩,
      { k with waiting := ds ++ es }⟩ :=
  .tail (.tail (.single (.begun h)) (.done .metadata)) (.done .networks)

/-- A pass that waits has its turn, until the next one may begin. -/
theorem leads_pass (n : Node ω) (k : Minutes) {ds es : List Membership}
    (h : k.waiting = ds ++ d :: es) :
    ∃ heard, Leads ⟨n, none, k⟩ ⟨(n.reconcile d).1, none,
      { k with
        waiting := ds ++ es
        past := k.past ++ [(d, (n.reconcile d).2)]
        heard := heard }⟩ := by
  obtain ⟨heard, hpass⟩ := leads_foldl (n := n.adopt d) (d := d) (b := n.registry) (r := .empty)
    (k := { k with waiting := ds ++ es }) (.clearing n.registry.addresses)
  exact ⟨heard, ((leads_turn n k h).trans hpass).tail .finished⟩

theorem waiting_ask (k : Minutes) (d : Membership) : (k.ask d).waiting = k.waiting ++ d :: [] := rfl

/-- A pass begins, up to its first chore. -/
theorem leads_begin (n : Node ω) (d : Membership) :
    Leads ⟨n, none, k⟩ ⟨n.adopt d,
      some ⟨d, n.registry, .empty, .clearing n.registry.addresses⟩,
      { k with asked := k.asked ++ [d] }⟩ := by
  have hturn := leads_turn n (k.ask d) (waiting_ask k d)
  rw [List.append_nil] at hturn
  exact .head (.requested d) hturn

/-- A pass, from the moment when somebody asks for it until the next one may begin. -/
theorem leads_reconcile (n : Node ω) (d : Membership) :
    ∃ heard, Leads ⟨n, none, k⟩ ⟨(n.reconcile d).1, none,
      { k with
        asked := k.asked ++ [d]
        past := k.past ++ [(d, (n.reconcile d).2)]
        heard := heard }⟩ := by
  obtain ⟨heard, hpass⟩ := leads_pass n (k.ask d) (waiting_ask k d)
  rw [List.append_nil] at hpass
  exact ⟨heard, .head (.requested d) hpass⟩

/-- Where a turn of the loop leaves the pass that it is in: at its end, or before an
announcement. -/
inductive Juncture.Left (d : Membership) : Juncture → Option Pass → Prop where
  | ended : Left d (.filling []) none
  | stopped {j j' : Juncture} {e : MemberEvent} {cs : List Chore} : j.Tells e j' →
      j'.Ahead d.members cs → Left d j (some ⟨d.members, e, cs⟩)

theorem leads_advance {j : Juncture} {cs : List Chore} (hj : j.Ahead d.members cs)
    (a : Allowance) : ∃ r' j' heard, j'.Left d (advance d.members a cs n).2.2
      ∧ Leads ⟨n, some ⟨d, b, r, j⟩, k⟩ ⟨(advance d.members a cs n).1, some ⟨d, b, r', j'⟩,
        { k with heard := heard }⟩ := by
  induction cs generalizing n r j k a with
  | nil => exact ⟨r, _, k.heard, .ended, leads_end hj⟩
  | cons c cs ih =>
      have hled := led_perform (n := n) (b := b) (r := r) (k := k) hj
      rw [advance]
      generalize n.perform d.members c = out at hled ⊢
      cases hled with
      | @silent m e _ hsilent hahead hleads =>
          obtain ⟨r', j', heard, hleft, hrest⟩ := ih (n := m) (r := r.note e) (k := k) hahead a
          cases e with
          | changed event => exact absurd rfl (hsilent event)
          | nothing => exact ⟨r', j', heard, hleft, hleads.trans hrest⟩
          | failed _ => exact ⟨r', j', heard, hleft, hleads.trans hrest⟩
      | @untold m event _ _ htells hahead hleads =>
          dsimp only
          cases a.spend? 1 with
          | none => exact ⟨r, _, k.heard, .stopped htells hahead, hleads⟩
          | some a =>
              obtain ⟨r', j', heard, hleft, hrest⟩ := ih (n := m.announce event)
                (r := r.note (.changed event)) (k := k.hear event) hahead a
              exact ⟨r', j', heard, hleft, (hleads.tail (.told htells)).trans hrest⟩

end

end Conclave.Node

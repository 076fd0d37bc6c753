import Conclave.Proofs.Node.Following
import Conclave.Proofs.Node.Interleaving

/-!
# Passes take turns

Passes may be asked for by several at once, and only one at a time is under way. What they lead to
is therefore what they would lead to if each were asked for when the one before is over
(`leads_oneByOne`). Every pass that was asked for is over, under way or waiting (`turns_of_leads`),
so nothing is lost and nothing is done twice.

If it does not change in the meantime for which addresses members can be made, the registry can be
told from the order of the turns alone: it is the one that `passes` leads to (`akin_of_steadily`).
The invariant looks ahead. What the pass under way is still going to make of the node
(`Juncture.outcome`) is not changed by any of its acts, and whatever happens beside it makes of the
node one that it takes the same way (`Akin`).
-/

namespace Conclave.Node

open Relation (ReflTransGen)

variable {ω : Type}

/-! ## The order of the turns -/

/-- The passes that have had their turns, the one under way included. -/
def Situation.begun (x : Situation ω) : List Membership :=
  x.minutes.past.map Prod.fst ++ x.underway.elim [] fun u => [u.desired]

/-- At most one of the passes that were asked for is not over. -/
def Situation.IsAlone (x : Situation ω) : Prop :=
  x.minutes.waiting = [] ∨ x.underway = none ∧ ∃ d, x.minutes.waiting = [d]

/-- The situation in which nobody waits, and other passes were asked for. -/
def Situation.unawaited (x : Situation ω) (asked : List Membership) : Situation ω :=
  { x with minutes := { x.minutes with asked := asked, waiting := [] } }

variable [Surroundings ω]

/-- Steps by which nobody asks for a pass until the one before is over. -/
def OneByOne : Situation ω → Situation ω → Prop := ReflTransGen fun x y => Next x y ∧ y.IsAlone

theorem turns_next {x y : Situation ω} (h : (x.begun ++ x.minutes.waiting).Perm x.minutes.asked)
    (hnext : Next x y) : (y.begun ++ y.minutes.waiting).Perm y.minutes.asked := by
  cases hnext with
  | requested d =>
      rw [Minutes.ask, ← List.append_assoc]
      exact h.append_right [d]
  | @begun n k ds es d hwaiting =>
      have hbefore : (k.past.map Prod.fst ++ [] ++ (ds ++ d :: es)).Perm k.asked := by
        rw [← hwaiting]
        exact h
      have hmiddle : (d :: (ds ++ es)).Perm (ds ++ d :: es) := List.perm_middle.symm
      rw [List.append_nil] at hbefore
      rw [Situation.begun, List.append_assoc]
      exact (hmiddle.append_left _).trans hbefore
  | done hdeed => exact h
  | told htells => exact h
  | finished =>
      rw [Situation.begun, Minutes.conclude, List.map_append]
      simpa [Situation.begun] using h
  | aside hapart => exact h

/-- Every pass that was asked for has its turn once, or it waits. -/
theorem turns_of_leads {n : Node ω} {x : Situation ω} (hleads : Leads (.initial n) x) :
    (x.begun ++ x.minutes.waiting).Perm x.minutes.asked := by
  induction hleads with
  | refl => exact .refl _
  | tail _ hnext ih => exact turns_next ih hnext

/-- A step can be made without anybody waiting: who asks for a pass can do so when it begins. -/
theorem oneByOne_next {x y : Situation ω} (hnext : Next x y) (asked : List Membership) :
    ∃ asked', OneByOne (x.unawaited asked) (y.unawaited asked') := by
  have hsingle : ∀ {z z' : Situation ω}, Next z z' → z'.minutes.waiting = [] → OneByOne z z' :=
    fun hnext hnone => .single ⟨hnext, .inl hnone⟩
  cases hnext with
  | requested d => exact ⟨asked, .refl⟩
  | @begun n k ds es d hwaiting =>
      let only : Minutes := { k with asked := asked ++ [d], waiting := [d] }
      have hasked : Next (Situation.unawaited ⟨n, none, k⟩ asked) ⟨n, none, only⟩ := .requested d
      have honly : only.waiting = [] ++ d :: [] := rfl
      have hbegun := Next.begun (n := n) honly
      exact ⟨asked ++ [d], .tail (.single ⟨hasked, .inr ⟨rfl, d, rfl⟩⟩) ⟨hbegun, .inl rfl⟩⟩
  | done hdeed => exact ⟨asked, hsingle (.done hdeed) rfl⟩
  | told htells => exact ⟨asked, hsingle (.told htells) rfl⟩
  | finished => exact ⟨asked, hsingle .finished rfl⟩
  | aside hapart => exact ⟨asked, hsingle (.aside hapart) rfl⟩

/-- Whatever passes that are asked for at any time lead to, they lead to it one by one as well. -/
theorem leads_oneByOne {n : Node ω} {x : Situation ω} (hleads : Leads (.initial n) x) :
    ∃ asked, OneByOne (.initial n) (x.unawaited asked) := by
  induction hleads with
  | refl => exact ⟨[], .refl⟩
  | tail _ hnext ih =>
      obtain ⟨asked, hbefore⟩ := ih
      obtain ⟨asked', hafter⟩ := oneByOne_next hnext asked
      exact ⟨asked', hbefore.trans hafter⟩

/-- Those that wait may have their turns in any order. -/
theorem leads_passes (n : Node ω) (k : Minutes) {ds : List Membership}
    (h : ds.Perm k.waiting) :
    ∃ past heard, past.map Prod.fst = k.past.map Prod.fst ++ ds
      ∧ Leads ⟨n, none, k⟩
        ⟨n.passes ds, none, { k with waiting := [], past := past, heard := heard }⟩ := by
  induction ds generalizing n k with
  | nil =>
      obtain ⟨asked, waiting, past, heard⟩ := k
      obtain rfl : waiting = [] := h.nil_eq.symm
      exact ⟨past, heard, (List.append_nil _).symm, .refl⟩
  | cons d r ih =>
      obtain ⟨before, after, hwaiting⟩ :=
        List.append_of_mem (h.subset (List.mem_cons_self ..))
      obtain ⟨heard, hpass⟩ := leads_pass n k hwaiting
      have hrest : r.Perm (before ++ after) := by
        rw [hwaiting] at h
        exact (h.trans List.perm_middle).cons_inv
      obtain ⟨past, heard', hpast, hpasses⟩ := ih (n.reconcile d).1
        { k with
          waiting := before ++ after
          past := k.past ++ [(d, (n.reconcile d).2)]
          heard := heard } hrest
      refine ⟨past, heard', ?_, hpass.trans hpasses⟩
      simpa using hpast

/-! ## The rest of a pass -/

/-- The node after some chores, each with its announcement. -/
def afterChores (n : Node ω) (desired : List String) (cs : List Chore) : Node ω :=
  (advance desired none cs n).1

theorem foldl_step_fst (desired : List String) (cs : List Chore) (s : Node ω × Report) :
    (cs.foldl (step desired) s).1 = s.1.afterChores desired cs := by
  rw [afterChores, advance_none]

theorem afterChores_cons (n : Node ω) (desired : List String) (c : Chore) (cs : List Chore) :
    n.afterChores desired (c :: cs) = (step desired (n, .empty) c).1.afterChores desired cs := by
  rw [← foldl_step_fst, ← foldl_step_fst desired (c :: cs) (n, .empty), List.foldl_cons]

/-- What the rest of a pass makes of the node, if nothing happens beside it. -/
def Juncture.outcome (d : Membership) (n : Node ω) : Juncture → Node ω
  | .entered => (n.reconcile d).1
  | .renewed => (n.replaceNetworks d.networks).afterChores d.members (n.chores d.members)
  | .clearing l => n.afterChores d.members (l.map .discharge ++ d.members.map .enlist)
  | .unclosed id a l => ((n.updateMember id Member.close).announce (.removed a)).afterChores
      d.members (l.map .discharge ++ d.members.map .enlist)
  | .parted a l => (n.announce (.removed a)).afterChores d.members
      (l.map .discharge ++ d.members.map .enlist)
  | .filling l => n.afterChores d.members (l.map .enlist)
  | .unregistered id a l =>
      if n.registry.contains a then n.afterChores d.members (l.map .enlist)
      else ((n.enroll a id).announce (.added a)).afterChores d.members (l.map .enlist)
  | .joined a l => (n.announce (.added a)).afterChores d.members (l.map .enlist)

omit [Surroundings ω] in
theorem discharge_of_dismisses {n : Node ω} {desired : List String} {a : String} {id : MemberId}
    (h : n.dismisses desired a = true) (hget : n.registry.get? a = some id) :
    n.discharge desired a
      = ((n.strike a).updateMember id Member.close, .changed (.removed a)) := by
  have hd := discharge_discharged n desired a
  generalize n.discharge desired a = out at hd ⊢
  cases hd with
  | kept hkept =>
      rw [h] at hkept
      cases hkept
  | removed _ hget' =>
      obtain rfl := Option.some.inj (hget'.symm.trans hget)
      rfl

theorem enlist_eq (n : Node ω) (a : String) : n.enlist a
    = if n.registry.contains a then (n, .nothing)
      else if n.accepts a then
        ({ n with
            members := n.members ++ [Member.new a]
            registry := n.registry.insert a n.members.length }, .changed (.added a))
      else (n, .failed a) := by
  have he := enlist_enlisted n a
  generalize n.enlist a = out at he ⊢
  cases he with
  | present hthere => rw [if_pos hthere]
  | refused habsent hrefused => simp [habsent, hrefused]
  | added habsent haccepts => simp [habsent, haccepts]

/-- An act of a pass does not change what will come of it. -/
theorem outcome_deed {n n' : Node ω} {d : Membership} {j j' : Juncture} {e : Effect}
    (hdeed : Deed n d j n' e j') : j'.outcome d n' = j.outcome d n := by
  cases hdeed with
  | metadata => exact congrArg Prod.fst (advance_none_chores n d)
  | networks => rfl
  | @kept a l hkept =>
      change _ = n.afterChores d.members (.discharge a :: _)
      rw [afterChores_cons, step, perform, discharge_of_not_dismisses hkept]
      rfl
  | @removed id a l hgone hget =>
      change _ = n.afterChores d.members (.discharge a :: _)
      rw [afterChores_cons, step, perform, discharge_of_dismisses hgone hget]
      rfl
  | closed => rfl
  | turned => rfl
  | @present a l hthere =>
      change _ = n.afterChores d.members (.enlist a :: _)
      rw [afterChores_cons, step, perform, enlist, if_pos hthere]
      rfl
  | @refused fault a l habsent hmake =>
      change _ = n.afterChores d.members (.enlist a :: _)
      rw [afterChores_cons, step, perform, enlist, habsent, hmake]
      rfl
  | @made n' id a l habsent hmake =>
      have hstill : n'.registry.contains a = false := by
        rw [(makeMember_ok hmake).2.1]
        exact habsent
      change Juncture.outcome d n' (.unregistered id a l)
        = n.afterChores d.members (.enlist a :: _)
      rw [afterChores_cons, step, perform, enlist, habsent, hmake, Juncture.outcome, hstill]
      rfl
  | @preceded id a l hthere =>
      rw [Juncture.outcome, Juncture.outcome, if_pos hthere]
  | @registered id a l habsent =>
      rw [Juncture.outcome, Juncture.outcome, habsent]
      rfl

theorem outcome_tells {j j' : Juncture} {e : MemberEvent} (htells : j.Tells e j')
    (d : Membership) (n : Node ω) : j'.outcome d (n.announce e) = j.outcome d n := by
  cases htells <;> rfl

/-! ## Nodes that passes take the same way -/

/-- Two nodes with the same registry, as many members and the same factory. -/
structure Akin (factory : String → Bool) (n m : Node ω) : Prop where
  registry : m.registry = n.registry
  made : m.members.length = n.members.length
  left : Makes factory n
  right : Makes factory m

section

variable {factory : String → Bool} {n m : Node ω}

theorem Akin.refl (h : Makes factory n) : Akin factory n n := ⟨rfl, rfl, h, h⟩

theorem Akin.trans {o : Node ω} (h : Akin factory n m) (h' : Akin factory m o) :
    Akin factory n o :=
  ⟨h'.registry.trans h.registry, h'.made.trans h.made, h.left, h'.right⟩

theorem Akin.announce (h : Akin factory n m) (e : MemberEvent) :
    Akin factory (n.announce e) (m.announce e) :=
  ⟨h.registry, h.made, h.left.announce e, h.right.announce e⟩

theorem akin_discharge (h : Akin factory n m) (desired : List String) (a : String) :
    Akin factory (n.discharge desired a).1 (m.discharge desired a).1
    ∧ (m.discharge desired a).2 = (n.discharge desired a).2 := by
  have hsame : m.dismisses desired a = n.dismisses desired a := by
    rw [dismisses, h.registry, dismisses]
  cases hgone : n.dismisses desired a with
  | false =>
      rw [discharge_of_not_dismisses hgone, discharge_of_not_dismisses (hsame.trans hgone)]
      exact ⟨h, rfl⟩
  | true =>
      obtain ⟨id, hget⟩ : ∃ id, n.registry.get? a = some id := by
        rw [← Option.isSome_iff_exists, Registry.isSome_get?]
        simp only [dismisses, Bool.and_eq_true] at hgone
        exact hgone.1.1
      have hget' : m.registry.get? a = some id := by rw [h.registry, hget]
      rw [discharge_of_dismisses hgone hget,
        discharge_of_dismisses (hsame.trans hgone) hget']
      refine ⟨⟨?_, ?_, h.left.of_world rfl, h.right.of_world rfl⟩, rfl⟩
      · exact congrArg (Registry.remove · a) h.registry
      · simpa [updateMember, strike] using h.made

theorem akin_enlist (h : Akin factory n m) (a : String) :
    Akin factory (n.enlist a).1 (m.enlist a).1 ∧ (m.enlist a).2 = (n.enlist a).2 := by
  have hsame : m.accepts a = n.accepts a := by rw [h.right.2, h.left.2]
  rw [enlist_eq, enlist_eq, h.registry, hsame]
  split
  · exact ⟨h, rfl⟩
  · split
    · refine ⟨⟨?_, ?_, h.left.of_world rfl, h.right.of_world rfl⟩, rfl⟩
      · exact congrArg (n.registry.insert a) h.made
      · simpa using h.made
    · exact ⟨h, rfl⟩

/-- Akin nodes do a chore alike. -/
theorem akin_step (h : Akin factory n m) (desired : List String) (c : Chore)
    (r : Report) : Akin factory (step desired (n, r) c).1 (step desired (m, r) c).1 := by
  obtain ⟨hakin, heffect⟩ : Akin factory (n.perform desired c).1 (m.perform desired c).1
      ∧ (m.perform desired c).2 = (n.perform desired c).2 := by
    cases c with
    | discharge a => exact akin_discharge h desired a
    | enlist a => exact akin_enlist h a
  rw [step, step]
  generalize n.perform desired c = out at hakin heffect ⊢
  generalize m.perform desired c = out' at hakin heffect ⊢
  obtain ⟨n', _⟩ := out
  obtain ⟨m', effect⟩ := out'
  obtain rfl : effect = _ := heffect
  cases effect with
  | changed e => exact Akin.announce hakin e
  | nothing => exact hakin
  | failed a => exact hakin

theorem akin_afterChores (h : Akin factory n m) (desired : List String) (cs : List Chore) :
    Akin factory (n.afterChores desired cs) (m.afterChores desired cs) := by
  induction cs generalizing n m with
  | nil => exact h
  | cons c cs ih =>
      rw [afterChores_cons, afterChores_cons]
      exact ih (akin_step h desired c .empty)

theorem akin_reconcile (h : Akin factory n m) (d : Membership) :
    Akin factory (n.reconcile d).1 (m.reconcile d).1 := by
  have hadopted : Akin factory (n.adopt d) (m.adopt d) := by
    refine ⟨?_, h.made, h.left.of_world rfl, h.right.of_world rfl⟩
    exact congrArg (Registry.adopt · d) h.registry
  have hchores : m.chores d.members = n.chores d.members := by
    rw [chores, h.registry, chores]
  rw [reconcile, reconcile, foldl_step_fst, foldl_step_fst, hchores]
  exact akin_afterChores hadopted d.members _

/-- Akin nodes are akin after the rest of a pass. -/
theorem akin_outcome (h : Akin factory n m) (d : Membership) (j : Juncture) :
    Akin factory (j.outcome d n) (j.outcome d m) := by
  cases j with
  | entered => exact akin_reconcile h d
  | renewed =>
      have hchores : m.chores d.members = n.chores d.members := by
        rw [chores, h.registry, chores]
      have hreplaced : Akin factory (n.replaceNetworks d.networks)
          (m.replaceNetworks d.networks) := by
        refine ⟨?_, h.made, h.left.of_world rfl, h.right.of_world rfl⟩
        rw [replaceNetworks, h.registry, replaceNetworks]
      rw [Juncture.outcome, Juncture.outcome, hchores]
      exact akin_afterChores hreplaced d.members _
  | clearing l => exact akin_afterChores h d.members _
  | unclosed id a l =>
      refine akin_afterChores (Akin.announce ?_ (.removed a)) d.members _
      refine ⟨h.registry, ?_, h.left.of_world rfl, h.right.of_world rfl⟩
      simpa [updateMember] using h.made
  | parted a l => exact akin_afterChores (h.announce (.removed a)) d.members _
  | filling l => exact akin_afterChores h d.members _
  | unregistered id a l =>
      rw [Juncture.outcome, Juncture.outcome, h.registry]
      split
      · exact akin_afterChores h d.members _
      · refine akin_afterChores (Akin.announce ?_ (.added a)) d.members _
        refine ⟨?_, h.made, h.left.of_world rfl, h.right.of_world rfl⟩
        exact congrArg (Registry.insert · a id) h.registry
  | joined a l => exact akin_afterChores (h.announce (.added a)) d.members _

end

/-! ## What the passes have led to -/

/-- The node when the pass under way is over, if nothing happens beside it. -/
def Situation.outcome (x : Situation ω) : Node ω :=
  x.underway.elim x.node fun u => u.juncture.outcome u.desired x.node

/-- Steps that do not change for which addresses members can be made. -/
def Steadily (factory : String → Bool) : Situation ω → Situation ω → Prop :=
  ReflTransGen fun x y => Next x y ∧ Makes factory y.node

theorem passes_concat (n : Node ω) (ds : List Membership) (d : Membership) :
    n.passes (ds ++ [d]) = ((n.passes ds).reconcile d).1 := by
  rw [passes, List.foldl_append, passes]
  rfl

theorem akin_next {factory : String → Bool} {n : Node ω} {x y : Situation ω}
    (h : Akin factory (n.passes x.begun) x.outcome) (hx : Makes factory x.node)
    (hy : Makes factory y.node) (hnext : Next x y) :
    Akin factory (n.passes y.begun) y.outcome := by
  cases hnext with
  | requested d => exact h
  | @begun m k ds es d hwaiting =>
      have hrest : Akin factory (n.passes (k.past.map Prod.fst)) m := by
        simpa [Situation.begun, Situation.outcome] using h
      change Akin factory (n.passes (k.past.map Prod.fst ++ [d])) (m.reconcile d).1
      rw [passes_concat]
      exact akin_reconcile hrest d
  | done hdeed =>
      rw [Situation.outcome, Option.elim_some, outcome_deed hdeed]
      exact h
  | told htells =>
      rw [Situation.outcome, Option.elim_some, outcome_tells htells]
      exact h
  | @finished m k d b r =>
      have hpast : Akin factory (n.passes (k.past.map Prod.fst ++ [d])) m := h
      change Akin factory (n.passes ((k.past ++ [(d, r)]).map Prod.fst ++ [])) m
      rw [List.append_nil, List.map_append]
      exact hpast
  | @aside m m' u k hapart =>
      have hmade : m'.members.length = m.members.length := by
        simpa using congrArg List.length hapart.addresses
      have hakin : Akin factory m m' := ⟨hapart.registry, hmade, hx, hy⟩
      cases u with
      | none => exact h.trans hakin
      | some u => exact h.trans (akin_outcome hakin u.desired u.juncture)

/-- What the passes have led to and what is still to come of the one under way is what they lead to
one after the other. -/
theorem akin_of_steadily {factory : String → Bool} {n : Node ω} {x : Situation ω}
    (hn : Makes factory n) (hsteadily : Steadily factory (.initial n) x) :
    Akin factory (n.passes x.begun) x.outcome := by
  obtain ⟨-, hakin⟩ : Makes factory x.node ∧ Akin factory (n.passes x.begun) x.outcome := by
    induction hsteadily with
    | refl => exact ⟨hn, .refl hn⟩
    | tail _ hnext ih => exact ⟨hnext.2, akin_next ih.2 ih.1 hnext.2 hnext.1⟩
  exact hakin

end Conclave.Node

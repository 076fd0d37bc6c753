import Conclave.Node.Lifecycle

/-!
# All that goes on in the loop of a node

The loop of a node makes passes of reconciliation, and after every change the listeners hear of it.
A relation between states of a node that holds for each of these parts (`Sustained`) holds for
passes, for turns of the loop, wherever they stop, and for the first pass of a node.
-/

namespace Conclave.Node

variable {ω : Type}

/-- A relation that every step obeys is obeyed by all steps together. -/
theorem sustained_foldl {α : Type} {R : Node ω → Node ω → Prop} {f : Node ω → α → Node ω}
    (hrefl : ∀ n, R n n) (htrans : ∀ {n n' n''}, R n n' → R n' n'' → R n n'')
    (h : ∀ n x, R n (f n x)) (l : List α) (n : Node ω) : R n (l.foldl f n) := by
  induction l generalizing n with
  | nil => exact hrefl n
  | cons x r ih => exact htrans (h n x) (ih (f n x))

variable [Surroundings ω]

/-- A relation between earlier and later states of a node that every part of a pass obeys. -/
structure Sustained (R : Node ω → Node ω → Prop) : Prop where
  refl : ∀ n, R n n
  trans : ∀ {n n' n''}, R n n' → R n' n'' → R n n''
  perform : ∀ n desired c, R n (n.perform desired c).1
  announce : ∀ n e, R n (n.announce e)
  adopt : ∀ n desired, R n (n.adopt desired)
  follower : ∀ (n : Node ω) (f : Follower), R n { n with follower := f }

namespace Sustained

variable {R : Node ω → Node ω → Prop} (h : Sustained R)
include h

theorem advance (desired : List String) (cs : List Chore) (a : Allowance) (n : Node ω) :
    R n (advance desired a cs n).1 := by
  induction cs generalizing a n with
  | nil => exact h.refl n
  | cons c r ih =>
      have hperform := h.perform n desired c
      rw [Node.advance]
      generalize n.perform desired c = out at hperform ⊢
      obtain ⟨m, effect⟩ := out
      cases effect with
      | nothing => exact h.trans hperform (ih a m)
      | failed address => exact h.trans hperform (ih a m)
      | changed e =>
          dsimp only
          cases a.spend? 1 with
          | none => exact hperform
          | some a => exact h.trans (h.trans hperform (h.announce m e)) (ih a (m.announce e))

theorem step (desired : List String) (s : Node ω × Report) (c : Chore) :
    R s.1 (step desired s c).1 := by
  have hperform := h.perform s.1 desired c
  rw [Node.step]
  generalize s.1.perform desired c = out at hperform ⊢
  obtain ⟨m, effect⟩ := out
  cases effect with
  | nothing => exact hperform
  | changed e => exact h.trans hperform (h.announce m e)
  | failed address => exact hperform

theorem reconcile (n : Node ω) (desired : Membership) : R n (n.reconcile desired).1 := by
  have hchores : ∀ (cs : List Chore) (s : Node ω × Report),
      R s.1 (cs.foldl (Node.step desired.members) s).1 := by
    intro cs
    induction cs with
    | nil => exact fun s => h.refl s.1
    | cons c r ih => exact fun s => h.trans (h.step desired.members s c) (ih _)
  exact h.trans (h.adopt n desired)
    (hchores (n.chores desired.members) (n.adopt desired, Report.empty))

theorem start (n : Node ω) : R n n.start.1 := by
  rw [Node.start]
  cases n.follower with
  | idle s => exact h.trans (h.reconcile n n.channel.current) (h.follower _ _)
  | _ => exact h.refl n

theorem follows (s : Membership.Subscription) (x : Node ω × Allowance × Option Pass) :
    R x.1 (follows s x).1 := by
  obtain ⟨n, a, p⟩ := x
  cases p <;> exact h.follower n _

theorem resume (a : Allowance) (p : Pass) (n : Node ω) : R n (resume a p n).1 := by
  rw [Node.resume]
  cases a.spend? 1 with
  | none => exact h.refl n
  | some a => exact h.trans (h.announce n p.unannounced) (h.advance p.desired p.chores a _)

theorem follow (n : Node ω) (a : Allowance) : R n (n.follow a).1 := by
  rw [Node.follow]
  cases n.follower with
  | idle s => exact h.refl n
  | ended => exact h.refl n
  | reconciling s p => exact h.trans (h.resume a p n) (h.follows s _)
  | following s =>
      dsimp only
      split
      · exact h.follower n .ended
      · rcases n.channel.next s with ⟨s', change⟩
        cases change with
        | pending => exact h.refl n
        | closed => exact h.follower n .ended
        | changed desired =>
            dsimp only
            cases a.spend? 2 with
            | none => exact h.refl n
            | some a =>
                have hpass := h.trans (h.adopt n desired)
                  (h.advance desired.members (n.chores desired.members) a (n.adopt desired))
                exact h.trans hpass (h.follows s' _)

theorem turn (n : Node ω) (a : Allowance) : R n (n.turn a) :=
  h.trans (h.trans (h.follow n a) (h.follow _ _)) (h.follow _ _)

end Sustained

end Conclave.Node

import Conclave.Node.Reconcile

/-!
# What runs in the background

The loop that follows the channel of memberships, and the tasks of accepted signals. `settle`
lets everything run until nothing can proceed. A task never spawns another one, so one turn of
each, with the loop before and after, is enough.

A caller that gives way to the background waits for one turn of each only. A turn of the loop has
so many units of work: it spends one on every announcement, and two on starting a pass. Without
units it stops, if need be in the middle of a pass, and goes on in its next turn. With enough
units a pass comes out as a whole (`advance_none`).
-/

namespace Conclave.Node

variable {ω : Type} [Surroundings ω]

/-! ## Units of work -/

/-- How many units of work may be spent, if there is a limit. -/
abbrev Allowance := Option Nat

def Allowance.turn : Allowance := some 128

/-- What is left after some units, if there are as many. -/
def Allowance.spend? (a : Allowance) (units : Nat) : Option Allowance :=
  match a with
  | none => some none
  | some k => if units ≤ k then some (some (k - units)) else none

/-! ## The loop -/

/-- Does chores as long as their announcements are allowed. -/
def advance (desired : List String) : Allowance → List Chore → Node ω →
    Node ω × Allowance × Option Pass
  | a, [], n => (n, a, none)
  | a, c :: r, n =>
    match n.perform desired c with
    | (n, .changed e) =>
      match a.spend? 1 with
      | some a => advance desired a r (n.announce e)
      | none => (n, a, some ⟨desired, e, r⟩)
    | (n, _) => advance desired a r n

def resume (a : Allowance) (p : Pass) (n : Node ω) : Node ω × Allowance × Option Pass :=
  match a.spend? 1 with
  | some a => advance p.desired a p.chores (n.announce p.unannounced)
  | none => (n, a, some p)

def follows (s : Membership.Subscription) :
    Node ω × Allowance × Option Pass → Node ω × Allowance
  | (n, a, none) => ({ n with follower := .following s }, a)
  | (n, a, some p) => ({ n with follower := .reconciling s p }, a)

/-- The loop goes on: with the pass that it is in, or with the next value of the channel. It ends
with the lifetime, and when the channel is closed and its last value has been seen. -/
def follow (n : Node ω) (a : Allowance) : Node ω × Allowance :=
  match n.follower with
  | .following s =>
    if n.lifetimeOver then ({ n with follower := .ended }, a)
    else
      match n.channel.next s with
      | (s, .changed desired) =>
        match a.spend? 2 with
        | some a =>
          follows s (advance desired.members a (n.chores desired.members) (n.adopt desired))
        | none => (n, a)
      | (_, .pending) => (n, a)
      | (_, .closed) => ({ n with follower := .ended }, a)
  | .reconciling s p => follows s (resume a p n)
  | _ => (n, a)

/-- A turn of the loop: the end of a pass, the next value, and a look whether there will be
another one. -/
def turn (n : Node ω) (a : Allowance) : Node ω :=
  let (n, a) := n.follow a
  let (n, a) := n.follow a
  (n.follow a).1

/-- Whether the loop has stopped in the middle of a pass. -/
def isHalfway (n : Node ω) : Bool :=
  match n.follower with
  | .reconciling .. => true
  | _ => false

/-! ## Tasks -/

/-- Runs the handler of a task. A handler that never returns stays as a stuck task. -/
def runTask (n : Node ω) (t : Task) : Node ω :=
  let d := t.delivered
  match Surroundings.take n.world t.handler d.sender d.message with
  | (world, controls, .returned _) => n.after world controls
  | (world, controls, .never) =>
    let n := n.after world controls
    { n with tasks := n.tasks ++ [{ t with stage := .stuck }] }

/-- Runs the tasks that are ready, in the order in which they were spawned. -/
def runTasks (n : Node ω) : Node ω :=
  let (ready, others) := n.tasks.partition (·.stage = .ready)
  ready.foldl runTask { n with tasks := others }

/-! ## Waiting -/

/-- Lets everything run until nothing can proceed. -/
def settle (n : Node ω) : Node ω := ((n.turn none).runTasks).turn none

/-- A caller waits for what does not come: the background runs, and things may happen around the
node. -/
def pause (n : Node ω) : Node ω := n.settle.elapse

/-- A caller gives way to the background: everything that is ready has one turn, and things may
happen around the node. What a task publishes wakes the loop again, unless it is in the middle of
a pass. -/
def giveWay (n : Node ω) : Node ω :=
  let n := (n.turn .turn).runTasks
  (if n.isHalfway then n else n.turn .turn).elapse

/-- Forgets the sightings that are at least as old as the retention time. -/
def trimSightings (n : Node ω) : Node ω :=
  { n with sightings := n.sightings.trim n.now n.sightings.retention }

/-! ## Whole passes -/

theorem advance_none (desired : List String) (cs : List Chore) (s : Node ω × Report) :
    advance desired none cs s.1 = ((cs.foldl (step desired) s).1, none, none) := by
  induction cs generalizing s with
  | nil => rfl
  | cons c r ih =>
    rw [advance, List.foldl_cons]
    rcases h : s.1.perform desired c with ⟨n, effect⟩
    cases effect <;> simp only [Allowance.spend?] <;> rw [← ih] <;> simp [step, h]

/-- A pass without a limit is the one that `reconcile` makes. -/
theorem advance_none_chores (n : Node ω) (desired : Membership) :
    advance desired.members none (n.chores desired.members) (n.adopt desired)
      = ((n.reconcile desired).1, none, none) :=
  advance_none desired.members (n.chores desired.members) (n.adopt desired, Report.empty)

end Conclave.Node

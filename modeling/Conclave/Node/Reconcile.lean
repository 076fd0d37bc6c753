import Conclave.Node.State

/-!
# Reconciliation

A pass brings the registry in line with a desired membership: first the metadata and networks
are replaced, then the members that are no longer desired are removed in ascending order of
their addresses, then the new ones are made and added in the order of the list. A pass is a list
of chores, and after each change the listeners hear of it before the next chore is done. So a
pass is a fold over its chores, and every point inside it lies between two of them or before an
announcement.
-/

namespace Conclave.Node

variable {ω : Type} [Surroundings ω]

/-- What a pass did. `failed` lists the addresses for which no member could be made. -/
structure Report where
  added : List String
  removed : List String
  failed : List String
deriving DecidableEq, Repr

/-- What a chore did. -/
inductive Effect where
  | nothing
  | changed (event : MemberEvent)
  | failed (address : String)
deriving DecidableEq, Repr

namespace Report

def empty : Report := ⟨[], [], []⟩

def isUnchanged (r : Report) : Bool := r.added.isEmpty && r.removed.isEmpty && r.failed.isEmpty

def note (r : Report) : Effect → Report
  | .nothing => r
  | .changed (.added address) => { r with added := r.added ++ [address] }
  | .changed (.removed address) => { r with removed := r.removed ++ [address] }
  | .failed address => { r with failed := r.failed ++ [address] }

end Report

/-! ## Chores -/

/-- Makes a member for an address; it is not registered yet. -/
def makeMember (n : Node ω) (address : String) : Except Fault (Node ω × MemberId) :=
  (Surroundings.accept n.world address).map fun _ =>
    ({ n with members := n.members ++ [Member.new address] }, n.members.length)

/-- Removes and closes the member under an address unless it is desired or the local one. -/
def discharge (n : Node ω) (desired : List String) (address : String) : Node ω × Effect :=
  if desired.contains address || n.registry.isLocal address then (n, .nothing)
  else
    match n.registry.get? address with
    | none => (n, .nothing)
    | some id =>
      ({ n with registry := n.registry.remove address }.updateMember id Member.close,
        .changed (.removed address))

/-- Makes and registers a member for an address unless there is one. -/
def enlist (n : Node ω) (address : String) : Node ω × Effect :=
  if n.registry.contains address then (n, .nothing)
  else
    match n.makeMember address with
    | .error _ => (n, .failed address)
    | .ok (n, id) =>
      ({ n with registry := n.registry.insert address id }, .changed (.added address))

def perform (n : Node ω) (desired : List String) : Chore → Node ω × Effect
  | .discharge address => n.discharge desired address
  | .enlist address => n.enlist address

def announce (n : Node ω) (e : MemberEvent) : Node ω :=
  { n with world := Surroundings.hear n.world e }

/-! ## Passes -/

/-- The chores of a pass: to look at every registered member, and then at every desired one. -/
def chores (n : Node ω) (desired : List String) : List Chore :=
  n.registry.addresses.map .discharge ++ desired.map .enlist

/-- The node with the metadata and networks of a desired membership. -/
def adopt (n : Node ω) (desired : Membership) : Node ω :=
  { n with registry := n.registry.adopt desired }

/-- A chore, the announcement of what it did, and the report. -/
def step (desired : List String) (s : Node ω × Report) (c : Chore) : Node ω × Report :=
  let (n, effect) := s.1.perform desired c
  let n := match effect with
    | .changed e => n.announce e
    | _ => n
  (n, s.2.note effect)

def reconcile (n : Node ω) (desired : Membership) : Node ω × Report :=
  (n.chores desired.members).foldl (step desired.members) (n.adopt desired, Report.empty)

end Conclave.Node

import Conclave.Proofs.Node.Standing
import Conclave.Rehearsal.World

/-!
# The filter in front of the endpoint

A filter either passes a request on or denies it, and it looks at nothing but the address of the
peer and the networks in force at that moment. So it is set apart here from what lies behind it: a
request is passed on (`PassesOn`) when the filter makes no difference to anything that might lie
there, and a denial leaves no trace of the request, of the networks or of what lies behind.

The networks in force are those of the last pass (`networks_history`). A pass replaces them before
it does anything else, so the node after it does not depend on the networks before it
(`withNetworks_reconcile` and the same for the other ways in which a pass begins).
-/

namespace Conclave.Node

variable {ω : Type}

/-- A node with other networks in force. -/
def withNetworks (n : Node ω) (l : Ip.AccessList) : Node ω :=
  { n with registry := { n.registry with networks := l } }

theorem inForce_of_getLast? {l : Ip.AccessList} {ds : List Membership} {d : Membership}
    (h : ds.getLast? = some d) : inForce l ds = d.networks := by
  obtain ⟨earlier, rfl⟩ := List.getLast?_eq_some_iff.mp h
  rw [inForce_append]
  rfl

variable [Surroundings ω]

theorem withNetworks_reconcile (n : Node ω) (l : Ip.AccessList) (desired : Membership) :
    (n.withNetworks l).reconcile desired = n.reconcile desired := rfl

theorem withNetworks_start {n : Node ω} {s : Membership.Subscription} (h : n.follower = .idle s)
    (l : Ip.AccessList) : (n.withNetworks l).start = n.start := by
  have hidle : (n.withNetworks l).follower = .idle s := h
  rw [start, start, h, hidle]
  rfl

theorem withNetworks_follow {n : Node ω} {a : Allowance} {d : Membership}
    (h : n.news? a = some d) (l : Ip.AccessList) : (n.withNetworks l).follow a = n.follow a := by
  have hfollower : (n.withNetworks l).follower = n.follower := rfl
  have hover : (n.withNetworks l).lifetimeOver = n.lifetimeOver := rfl
  have hchannel : (n.withNetworks l).channel = n.channel := rfl
  rw [news?] at h
  rw [follow, follow, hfollower]
  cases hf : n.follower with
  | following s =>
      rw [hf] at h
      dsimp only at h ⊢
      rw [hover, hchannel]
      split at h
      · cases h
      · rename_i hlive
        rw [if_neg hlive, if_neg hlive]
        rcases hnext : n.channel.next s with ⟨s', change⟩
        rw [hnext] at h
        cases change with
        | pending => cases h
        | closed => cases h
        | changed desired =>
            dsimp only at h ⊢
            cases hspend : a.spend? 2 with
            | none => rw [hspend] at h; cases h
            | some a' => rfl
  | _ => rw [hf] at h; cases h

end Conclave.Node

namespace Conclave.Http

open Wire Node

variable {ω : Type}

/-- What may lie behind a filter. -/
abbrev Inner (ω : Type) := Node ω → Incoming → Node ω × Ending Response

/-- The filter in front of something. -/
def behindFilter (inner : Inner ω) : Inner ω := fun n r =>
  if admitsPeer n.registry.networks r.peer then inner n r else (n, .returned denied)

/-- A node's filter passes a request on to whatever lies behind it. -/
def PassesOn (n : Node ω) (r : Incoming) : Prop :=
  ∀ inner : Inner ω, behindFilter inner n r = inner n r

/-- A list of networks is empty, or the peer is known and one of the networks contains it. -/
def Admitted (l : Ip.AccessList) (peer : Option Ip.Address) : Prop :=
  l.networks = [] ∨ ∃ a, peer = some a ∧ ∃ network ∈ l.networks, network.contains a = true

theorem admitsPeer_iff (l : Ip.AccessList) (peer : Option Ip.Address) :
    admitsPeer l peer = true ↔ Admitted l peer := by
  rw [admitsPeer, Bool.or_eq_true, List.isEmpty_iff, Admitted]
  by_cases hempty : l.networks = []
  · simp [hempty]
  · cases peer with
    | none => simp [hempty]
    | some a => simp [Ip.AccessList.admits, hempty]

theorem passesOn_iff (n : Node ω) (r : Incoming) :
    PassesOn n r ↔ Admitted n.registry.networks r.peer := by
  rw [← admitsPeer_iff]
  constructor
  · intro h
    have hnever := h fun n _ => (n, .never)
    rw [behindFilter] at hnever
    split at hnever
    · assumption
    · cases congrArg Prod.snd hnever
  · intro h inner
    rw [behindFilter, if_pos h]

/-- Nothing that lies behind a filter is asked when it does not pass a request on. -/
theorem denied_of_not_passesOn {n : Node ω} {r : Incoming} (h : ¬ PassesOn n r) (inner : Inner ω) :
    behindFilter inner n r = (n, .returned denied) := by
  rw [passesOn_iff, ← admitsPeer_iff] at h
  rw [behindFilter, if_neg h]

variable [Surroundings ω]

/-- A filter decides by the address of the peer and the networks in force. A denial is the same
whatever the request, the networks and what lies behind, and it leaves the node as it is. However a
pass begins, nothing that follows depends on the networks before it, and the last pass decides. -/
theorem filter_noninterference (s : Service) (n : Node ω) (r : Incoming) :
    s.respond n r = behindFilter s.resource n r
    ∧ (PassesOn n r ↔ Admitted n.registry.networks r.peer)
    ∧ (¬ PassesOn n r → ∀ (inner : Inner ω) (r' : Incoming), r'.peer = r.peer →
        behindFilter inner n r' = (n, .returned denied))
    ∧ (∀ (n' : Node ω) (r' : Incoming) (inner inner' : Inner ω), ¬ PassesOn n r →
        ¬ PassesOn n' r' → (behindFilter inner n r).2 = (behindFilter inner' n' r').2)
    ∧ denied.status = Status.forbidden.code
    ∧ (∀ l : Ip.AccessList,
        (∀ desired, (n.withNetworks l).reconcile desired = n.reconcile desired)
        ∧ (∀ sub, n.follower = .idle sub → (n.withNetworks l).start = n.start)
        ∧ ∀ a d, n.news? a = some d → (n.withNetworks l).follow a = n.follow a)
    ∧ ∀ (es : List (Event ω)) (d : Membership), (n.adoptedAlong es).getLast? = some d →
        ∀ r', PassesOn (es.foldl happen n) r' ↔ Admitted d.networks r'.peer := by
  refine ⟨rfl, passesOn_iff n r, fun h inner r' hpeer => ?_, fun n' r' inner inner' h h' => ?_, rfl,
    fun l => ⟨withNetworks_reconcile n l, fun _ hidle => withNetworks_start hidle l,
      fun _ _ hnews => withNetworks_follow hnews l⟩, fun es d hlast r' => ?_⟩
  · refine denied_of_not_passesOn ?_ inner
    rw [passesOn_iff, hpeer, ← passesOn_iff]
    exact h
  · rw [denied_of_not_passesOn h, denied_of_not_passesOn h']
  · rw [passesOn_iff, networks_history, inForce_of_getLast? hlast]

/-- A membership that admits the network of eight leading bits of an address. -/
def fence (bits : BitVec 32) (h : (Ip.Address.v4 bits).leading 8 = .v4 bits) : Membership :=
  { (default : Membership) with
    members := ["a:1"]
    networks := ⟨[⟨.v4 bits, 8, by simp [Ip.Address.width], h⟩]⟩ }

def fenced : Node Rehearsal.World :=
  alone (.start .quiet .scripted []) "a:1" ⟨10, 10, []⟩ (.new (fence 0x0a000000 (by decide)))

/-- The same node after its fence was moved. -/
def opened : List (Event Rehearsal.World) := [.reconciled (fence 0xc0000000 (by decide))]

def guest : Incoming := ⟨"POST", "/raft", some (.v4 0xc0a80001), [], [.error "unread"]⟩

/-- A guest from outside is denied, and passed on once a pass has moved the fence. -/
theorem guest_admitted_later :
    ¬ PassesOn fenced guest
    ∧ (∀ inner : Inner Rehearsal.World,
        behindFilter inner fenced guest = (fenced, .returned denied))
    ∧ (fenced.adoptedAlong opened).getLast? = some (fence 0xc0000000 (by decide))
    ∧ PassesOn (opened.foldl happen fenced) guest := by
  obtain ⟨-, hdecides, hdenies, -, -, -, hlater⟩ :=
    filter_noninterference ⟨"/raft", .exact "/raft", 1024⟩ fenced guest
  have houtside : ¬ PassesOn fenced guest := by
    rw [hdecides, ← admitsPeer_iff]
    decide
  have hlast : (fenced.adoptedAlong opened).getLast? = some (fence 0xc0000000 (by decide)) := rfl
  refine ⟨houtside, fun inner => hdenies houtside inner guest rfl, hlast, ?_⟩
  rw [hlater opened _ hlast, ← admitsPeer_iff]
  decide

end Conclave.Http

import Conclave.Membership
import Conclave.Node.Member
import Conclave.StringMap.Lemmas

/-!
# The registry of a node

Which members are registered under their addresses, and the metadata and admitted networks in
force. Members are referred to by the order in which they were made. The local member is never
removed.
-/

namespace Conclave.Node

/-- A member by the order in which the members were made. -/
abbrev MemberId := Nat

/-- The registered members, metadata and networks. -/
structure Registry where
  localAddress : String
  handles : StringMap MemberId
  metadata : Wire.Metadata
  networks : Ip.AccessList

namespace Registry

def new (localAddress : String) (id : MemberId) (metadata : Wire.Metadata)
    (networks : Ip.AccessList) : Registry :=
  ⟨localAddress, StringMap.empty.insert localAddress id, metadata, networks⟩

/-- Whether an address is that of the local member. -/
def isLocal (r : Registry) (address : String) : Bool := r.localAddress == address

def get? (r : Registry) (address : String) : Option MemberId := r.handles.get? address

/-- Whether a member is registered under an address. -/
def contains (r : Registry) (address : String) : Bool := r.handles.contains address

def addresses (r : Registry) : List String := r.handles.keys

/-- Registers a member unless one is registered under its address. -/
def insert (r : Registry) (address : String) (id : MemberId) : Registry :=
  if r.contains address then r else { r with handles := r.handles.insert address id }

def remove (r : Registry) (address : String) : Registry :=
  if r.isLocal address then r else { r with handles := r.handles.erase address }

/-- The registry with the metadata and the networks of a desired membership. -/
def adopt (r : Registry) (desired : Membership) : Registry :=
  { r with metadata := desired.metadata, networks := desired.networks }

theorem get?_insert (r : Registry) (address : String) (id : MemberId) (other : String) :
    (r.insert address id).get? other =
      if other = address ∧ r.contains address = false then some id else r.get? other := by
  unfold insert
  by_cases h : r.contains address = true
  · simp [h]
  · simp [h, get?, StringMap.get?_insert]

theorem get?_remove (r : Registry) (address other : String) :
    (r.remove address).get? other =
      if other = address ∧ r.isLocal address = false then none else r.get? other := by
  unfold remove
  by_cases h : r.isLocal address = true
  · simp [h]
  · simp [h, get?, StringMap.get?_erase]

theorem mem_addresses {r : Registry} {address : String} :
    address ∈ r.addresses ↔ r.contains address = true :=
  StringMap.mem_keys

/-- How a registry is shown to a developer. -/
def debugText (r : Registry) : String :=
  Text.record "MemberRegistry" [("local", Text.quoted r.localAddress),
    ("member_count", toString r.handles.size)]

end Registry

end Conclave.Node

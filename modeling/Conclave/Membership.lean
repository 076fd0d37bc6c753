import Conclave.Ip.AccessList
import Conclave.Wire.Payload

/-!
# The desired membership and its channel

What a configuration says about the cluster, and the channel on which it is published: the
channel keeps the latest value with a version, and each subscriber remembers the last version
that it has seen. A value equal to the current one is not published.
-/

namespace Conclave

/-- The desired members, the metadata of the node and the admitted networks. -/
structure Membership where
  members : List String
  metadata : Wire.Metadata
  networks : Ip.AccessList
deriving DecidableEq

namespace Membership

instance : Inhabited Membership := ⟨⟨[], StringMap.empty, Ip.AccessList.everyone⟩⟩

/-- The latest value, how many values were published before it, and whether more may come. -/
structure Channel where
  current : Membership
  version : Nat
  isOpen : Bool

/-- What a subscriber has seen. -/
structure Subscription where
  seen : Nat
deriving DecidableEq, Repr

/-- What waiting for a change gives. -/
inductive Change where
  | changed (value : Membership)
  | pending
  | closed

namespace Channel

def new (first : Membership) : Channel := ⟨first, 0, true⟩

/-- Publishes a value; true when it differs from the current one. -/
def publish (c : Channel) (value : Membership) : Channel × Bool :=
  if c.current = value then (c, false)
  else ({ c with current := value, version := c.version + 1 }, true)

def close (c : Channel) : Channel := { c with isOpen := false }

def subscribe (c : Channel) : Subscription := ⟨c.version⟩

/-- The next value that a subscriber has not seen, before the news that none will come. -/
def next (c : Channel) (s : Subscription) : Subscription × Change :=
  if s.seen < c.version then (⟨c.version⟩, .changed c.current)
  else (s, if c.isOpen then .pending else .closed)

/-- A value is published exactly when it differs from the current one. -/
theorem publish_eq_true_iff {c : Channel} {value : Membership} :
    (c.publish value).2 = true ↔ c.current ≠ value := by
  unfold publish
  split <;> simp_all

/-- After publishing a value it is the current one. -/
@[simp] theorem current_publish (c : Channel) (value : Membership) :
    (c.publish value).1.current = value := by
  unfold publish
  split <;> simp_all

/-- Who has just subscribed waits for the next value. -/
theorem next_subscribe (c : Channel) :
    c.next c.subscribe = (c.subscribe, if c.isOpen then .pending else .closed) := by
  simp [next, subscribe]

end Channel

end Membership

end Conclave

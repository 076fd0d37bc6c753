import Conclave.Node.Surroundings

/-!
# Listeners of membership events

A listener takes the events that it has not taken yet. They wait in a queue of limited length;
an event beyond it displaces the oldest one, and the listener learns how many it has lost.
-/

namespace Conclave.Node

/-- The events that wait for a listener, and how many were lost since it last looked. -/
structure Listener where
  capacity : Nat
  lost : Nat
  pending : List MemberEvent
deriving DecidableEq, Repr

namespace Listener

/-- A listener whose queue has room for at least so many events: the length of a queue is a
power of two. -/
def new (room : Nat) : Listener := ⟨room.nextPowerOfTwo, 0, []⟩

def hear (l : Listener) (e : MemberEvent) : Listener :=
  if l.pending.length < l.capacity then { l with pending := l.pending ++ [e] }
  else { l with lost := l.lost + 1, pending := l.pending.drop 1 ++ [e] }

def drained (l : Listener) : Listener := { l with lost := 0, pending := [] }

end Listener

end Conclave.Node

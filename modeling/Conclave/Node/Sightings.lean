import Conclave.Node.Member
import Conclave.Wire.MessageId

/-!
# Sightings of message identities

A node remembers when it first saw the identity of a one-way message, so that it can tell
repeats. A sighting is forgotten after a fixed time, by trimming, or when the store is tidied and
holds more than it has room for. A repeat does not prolong a sighting.
-/

namespace Conclave.Node

/-- The identities seen and when each was first seen. -/
structure Sightings where
  retention : Time
  capacity : Nat
  entries : List (Wire.MessageId × Time)
deriving DecidableEq, Repr

namespace Sightings

/-- The longest time that identities can be remembered: a thousand years of 365 days. -/
def longestRetention : Time := 1000 * 365 * 24 * 60 * 60 * 1000

/-- A store without sightings, if the retention time is possible. -/
def new? (retention : Time) (capacity : Nat) : Option Sightings :=
  if retention ≤ longestRetention then some ⟨retention, capacity, []⟩ else none

/-- The store without what is forgotten at a moment. -/
def refresh (s : Sightings) (now : Time) : Sightings :=
  { s with entries := s.entries.filter fun e => now < e.2 + s.retention }

/-- Whether an identity is remembered at a moment. -/
def remembers (s : Sightings) (now : Time) (id : Wire.MessageId) : Bool :=
  s.entries.any fun e => e.1 = id ∧ now < e.2 + s.retention

/-- Takes in an identity; true when it was remembered already. A store without any room takes in
nothing. -/
def see (s : Sightings) (now : Time) (id : Wire.MessageId) : Sightings × Bool :=
  if s.remembers now id then (s, true)
  else if s.capacity = 0 then (s, false)
  else ({ s with entries := (s.refresh now).entries ++ [(id, now)] }, false)

/-- The store without what is forgotten and without what it has no room for. -/
def tidy (s : Sightings) (now : Time) : Sightings :=
  { s with entries := (s.refresh now).entries.take s.capacity }

/-- Forgets the sightings that are at least `age` old. -/
def trim (s : Sightings) (now age : Time) : Sightings :=
  { s with entries := s.entries.filter fun e => now < e.2 + age }.tidy now

def size (s : Sightings) : Nat := s.entries.length

end Sightings

end Conclave.Node

import Conclave.Node.Surroundings

/-!
# Surroundings that keep a record

`Recorded ω` behaves like the surroundings `ω` and writes down, in order, what a node asks of the
consensus engine, of the message handlers and of the network. A statement about every node among
recorded surroundings is a statement about every node, and it can say what was not asked.
-/

namespace Conclave.Node

open Wire

/-- What a node asks of the engine, of a handler, or of another member. -/
inductive Asked where
  | consulted (sender : String) (call : ConsensusCall)
  | questioned (handler : HandlerId) (sender : String) (message : Message)
  | signalled (handler : HandlerId) (sender : String) (message : Message)
  | transmitted (address : String) (call : Outbound)
deriving DecidableEq, Repr

def Asked.transmission? : Asked → Option (String × Outbound)
  | .transmitted address call => some (address, call)
  | _ => none

/-- Surroundings in a state of `ω` with a record of what was asked of them, the last entry at the
end. -/
structure Recorded (ω : Type) where
  world : ω
  asked : List Asked

namespace Recorded

variable {ω : Type}

/-- The record with one more entry, beside a new state. -/
def note (r : Recorded ω) (a : Asked) (world : ω) : Recorded ω := ⟨world, r.asked ++ [a]⟩

def goto (r : Recorded ω) (world : ω) : Recorded ω := ⟨world, r.asked⟩

/-- What was sent to other members. -/
def transmissions (r : Recorded ω) : List (String × Outbound) :=
  r.asked.filterMap Asked.transmission?

instance [Surroundings ω] : Surroundings (Recorded ω) where
  elapse r := (r.goto (Surroundings.elapse r.world).1, (Surroundings.elapse r.world).2)
  now r := Surroundings.now r.world
  term r := Surroundings.term r.world
  leader r := Surroundings.leader r.world
  receive r sender call :=
    let (world, controls, answer) := Surroundings.receive r.world sender call
    (r.note (.consulted sender call) world, controls, answer)
  supports r := Surroundings.supports r.world
  answer r handler sender message :=
    let (world, controls, reply) := Surroundings.answer r.world handler sender message
    (r.note (.questioned handler sender message) world, controls, reply)
  take r handler sender message :=
    let (world, controls, ending) := Surroundings.take r.world handler sender message
    (r.note (.signalled handler sender message) world, controls, ending)
  transmit r address call :=
    let (world, controls, result) := Surroundings.transmit r.world address call
    (r.note (.transmitted address call) world, controls, result)
  accept r address := Surroundings.accept r.world address
  freshId r := ((Surroundings.freshId r.world).1, r.goto (Surroundings.freshId r.world).2)
  hear r e := r.goto (Surroundings.hear r.world e)

theorem transmissions_note (r : Recorded ω) (a : Asked) (world : ω) :
    (r.note a world).transmissions = r.transmissions ++ a.transmission?.toList := by
  cases h : a.transmission? <;> simp [transmissions, note, h]

end Recorded

end Conclave.Node

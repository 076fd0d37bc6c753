import Conclave.Proofs.Node.Errands

/-!
# All that goes on while a message is sent

While a message is on its way to the leader, its node hands it to itself or calls another member;
and in between the loop of the node, its tasks and whatever surrounds it go on. A relation between
states of a node that holds for each of these parts (`Upheld`) holds for the whole.
-/

namespace Conclave.Node

open Wire

variable {ω : Type} [Surroundings ω]

/-- A relation between earlier and later states of a node that every part of the sending of messages
obeys. -/
structure Upheld (R : Node ω → Node ω → Prop) : Prop where
  refl : ∀ n, R n n
  trans : ∀ {n n' n''}, R n n' → R n' n'' → R n n''
  turn : ∀ n a, R n (n.turn a)
  runTasks : ∀ n, R n n.runTasks
  elapse : ∀ n, R n n.elapse
  dispatchHere : ∀ n x, R n (n.dispatchHere x).1
  transmit : ∀ {n : Node ω} {address : String} {o : Outbound} {world : ω} {controls : List Control}
    {ending : Ending (Except Fault o.Answer)},
    Surroundings.transmit n.world address o = (world, controls, ending) →
    R n (n.after world controls)
  learn : ∀ {α : Type} (n : Node ω) (id : MemberId) (now : Time) (result : Except Fault α),
    R n (n.updateMember id fun m => m.learn now result)
  envelop : ∀ n m, R n (n.envelop m).2

namespace Upheld

variable {R : Node ω → Node ω → Prop} (h : Upheld R)
include h

theorem settle (n : Node ω) : R n n.settle :=
  h.trans (h.trans (h.turn n none) (h.runTasks _)) (h.turn _ none)

theorem pause (n : Node ω) : R n n.pause := h.trans (h.settle n) (h.elapse _)

theorem giveWay (n : Node ω) : R n n.giveWay := by
  have hturn : R n (n.turn .turn).runTasks := h.trans (h.turn n .turn) (h.runTasks _)
  rw [Node.giveWay]
  split
  · exact h.trans hturn (h.elapse _)
  · exact h.trans (h.trans hturn (h.turn _ .turn)) (h.elapse _)

theorem attemptHere (n : Node ω) (bound : Bound) (x : Errand) : R n (n.attemptHere bound x).1 := by
  have hhere := h.dispatchHere n x
  rw [Node.attemptHere]
  split
  · exact h.refl n
  · generalize n.dispatchHere x = out at hhere ⊢
    obtain ⟨m, ending⟩ := out
    cases ending with
    | returned result => exact hhere
    | never =>
        dsimp only
        split <;> exact h.trans hhere (h.pause m)

theorem call (n : Node ω) (bound : Bound) (id : MemberId) (o : Outbound) :
    R n (n.call bound id o).1 := by
  have hcalled := call_called n bound id o
  generalize n.call bound id o = r at hcalled ⊢
  cases hcalled with
  | absent hm => exact h.refl n
  | interrupted hm hi => exact h.learn n id _ _
  | answered hm hi ht => exact h.trans (h.transmit ht) (h.learn _ id _ _)
  | abandoned hm hi ht hp =>
      exact h.trans (h.trans (h.transmit ht) (h.pause _)) (h.learn _ id _ _)
  | pending hm hi ht hp => exact h.trans (h.transmit ht) (h.pause _)

theorem round (n : Node ω) (bound : Bound) (x : Errand) : R n (n.round bound x).1 := by
  have hattempt : R n (n.elapse.attempt bound x (n.heading bound)).1 := by
    refine h.trans (h.elapse n) ?_
    cases n.heading bound with
    | canceled => exact h.refl _
    | leaderless => exact h.refl _
    | here => exact h.attemptHere _ bound x
    | there id => exact h.call _ bound id x.outbound
  rw [Node.round]
  generalize n.elapse.attempt bound x (n.heading bound) = out at hattempt ⊢
  obtain ⟨m, ending⟩ := out
  cases ending <;> exact hattempt

theorem run (bound : Bound) (x : Errand) (rounds : Nat) (n : Node ω) :
    R n (run bound x rounds n).1 := by
  induction rounds generalizing n with
  | zero => exact h.refl n
  | succ rounds ih =>
      have hround := h.round n bound x
      rw [Node.run]
      generalize n.round bound x = out at hround ⊢
      obtain ⟨m, ending⟩ := out
      cases ending with
      | never => exact hround
      | returned verdict =>
          cases verdict with
          | retry fault => exact h.trans (h.trans hround (h.giveWay m)) (ih m.giveWay)
          | _ => exact hround

theorem sendRequest (rounds : Nat) (n : Node ω) (bound : Bound) (m : Message) :
    R n (sendRequest rounds n bound m).1 := by
  rw [Node.sendRequest]
  split
  · exact h.refl n
  · exact h.trans (h.envelop n m) (h.run bound _ rounds _)

theorem sendSignal (rounds : Nat) (n : Node ω) (bound : Bound) (m : Message) (d : Delivery) :
    R n (sendSignal rounds n bound m d).1 := by
  rw [Node.sendSignal]
  split
  · exact h.refl n
  · split
    · exact h.refl n
    · exact h.trans (h.envelop n m) (h.run bound _ rounds _)

end Upheld

end Conclave.Node

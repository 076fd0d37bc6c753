import Conclave.Proofs.Node.Steady

/-!
# How a call to a member ends

`Called` lists the ways a call can go, and `call_called` says that there is no other. A call is
transmitted once, to the address of the member, unless it is interrupted before it starts; and
whatever happens meanwhile, it undoes nothing.
-/

namespace Conclave.Node

open Wire

variable {ω β : Type} [Surroundings ω]

/-- How a call can go: the node afterwards and the end of the call. -/
inductive Called (n : Node ω) (bound : Bound) (id : MemberId) (o : Outbound) :
    Node ω × Ending (Except Fault o.Answer) → Prop where
  | absent : n.member? id = none → Called n bound id o (n, .never)
  | interrupted {m : Member} {fault : Fault} : n.member? id = some m →
      n.interruption bound id m.address = some fault →
      Called n bound id o (n.interrupted id fault, .returned (.error fault))
  | answered {m : Member} {world : ω} {controls : List Control}
      {result : Except Fault o.Answer} : n.member? id = some m →
      n.interruption bound id m.address = none →
      Surroundings.transmit n.world m.address o = (world, controls, .returned result) →
      Called n bound id o
        ((n.after world controls).updateMember id
          fun m => m.learn (n.after world controls).now result, .returned result)
  | abandoned {m : Member} {world : ω} {controls : List Control} {fault : Fault} :
      n.member? id = some m → n.interruption bound id m.address = none →
      Surroundings.transmit n.world m.address o = (world, controls, .never) →
      (n.after world controls).pause.interruption bound id m.address = some fault →
      Called n bound id o
        ((n.after world controls).pause.interrupted id fault, .returned (.error fault))
  | pending {m : Member} {world : ω} {controls : List Control} : n.member? id = some m →
      n.interruption bound id m.address = none →
      Surroundings.transmit n.world m.address o = (world, controls, .never) →
      (n.after world controls).pause.interruption bound id m.address = none →
      Called n bound id o ((n.after world controls).pause, .never)

/-- A call goes in no other way. -/
theorem call_called (n : Node ω) (bound : Bound) (id : MemberId) (o : Outbound) :
    Called n bound id o (n.call bound id o) := by
  rw [call]
  split
  · rename_i hm
    exact .absent hm
  · rename_i m hm
    split
    · rename_i fault hi
      exact .interrupted hm hi
    · rename_i hi
      split
      · rename_i world controls result ht
        exact .answered hm hi ht
      · rename_i world controls ht
        dsimp only
        split
        · rename_i fault hp
          exact .abandoned hm hi ht hp
        · rename_i hp
          exact .pending hm hi ht hp

/-- A call undoes nothing and spawns nothing. -/
theorem steady_call (n : Node ω) (bound : Bound) (id : MemberId) (o : Outbound) :
    Steady (fun _ => ()) n (n.call bound id o).1 := by
  have hafter : ∀ world controls, Steady (fun _ => ()) n (n.after world controls) := by
    intro world controls
    refine steady_after ?_ controls
    rfl
  have hpause : ∀ world controls, Steady (fun _ => ()) n (n.after world controls).pause :=
    fun world controls => (hafter world controls).trans (steady_pause kept_unit _)
  have hcalled := call_called n bound id o
  generalize n.call bound id o = r at hcalled ⊢
  cases hcalled with
  | absent hm => exact .refl n
  | interrupted hm hi => exact steady_updateMember ..
  | answered hm hi ht => exact (hafter _ _).trans (steady_updateMember ..)
  | abandoned hm hi ht hp => exact (hpause _ _).trans (steady_updateMember ..)
  | pending hm hi ht hp => exact hpause _ _

/-- The address that a call is transmitted to, if it is transmitted. -/
def reached (n : Node ω) (bound : Bound) (id : MemberId) : List String :=
  match n.member? id with
  | some m => if (n.interruption bound id m.address).isSome then [] else [m.address]
  | none => []

theorem transmissions_transmit {w w' : Recorded ω} {address : String} {o : Outbound}
    {controls : List Control} {ending : Ending (Except Fault o.Answer)}
    (h : Surroundings.transmit w address o = (w', controls, ending)) :
    w'.transmissions = w.transmissions ++ [(address, o)] := by
  obtain rfl : w.note (.transmitted address o) _ = w' := congrArg Prod.fst h
  exact Recorded.transmissions_note ..

/-- A call is transmitted at most once, and as it is. -/
theorem transmissions_call (n : Node (Recorded ω)) (bound : Bound) (id : MemberId)
    (o : Outbound) :
    (n.call bound id o).1.world.transmissions
      = n.world.transmissions ++ (n.reached bound id).map (·, o) := by
  have hafter : ∀ world controls, (n.after world controls).world.transmissions
      = world.transmissions := fun _ _ => congrArg Recorded.transmissions (world_after ..)
  have hpause : ∀ world controls, (n.after world controls).pause.world.transmissions
      = world.transmissions :=
    fun _ _ => (steady_pause kept_transmissions _).view.trans (hafter _ _)
  have hsent : ∀ {m : Member}, n.member? id = some m → n.interruption bound id m.address = none →
      n.reached bound id = [m.address] := by
    intro m hm hi
    simp [reached, hm, hi]
  have hcalled := call_called n bound id o
  generalize n.call bound id o = r at hcalled ⊢
  cases hcalled with
  | absent hm => simp [reached, hm]
  | interrupted hm hi => simp [reached, hm, hi, interrupted, updateMember]
  | answered hm hi ht =>
      rw [hsent hm hi]
      exact (hafter _ _).trans (transmissions_transmit ht)
  | abandoned hm hi ht hp =>
      rw [hsent hm hi]
      exact (hpause _ _).trans (transmissions_transmit ht)
  | pending hm hi ht hp =>
      rw [hsent hm hi]
      exact (hpause _ _).trans (transmissions_transmit ht)

end Conclave.Node

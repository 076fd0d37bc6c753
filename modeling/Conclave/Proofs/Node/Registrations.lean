import Conclave.Node.Handlers
import Mathlib.Data.List.Induction

/-!
# Who is registered after a history of changes

A history lists what was added and removed, the oldest first. An addition stands as long as its
handler has not been removed since (`Stands`), whoever else was added or removed, and however often
the handler was added before. What a registry holds are the additions that stand, in their order
(`registered_replay`), so that a removal takes away all additions of its handler and moves none of
the others.

The handler that is found for a name is the one of the earliest addition that stands and supports the
name (`find?_replay`), and none is found exactly when no addition that stands does.
-/

namespace Conclave.Node

/-- A change of the registered handlers. -/
inductive Change where
  | add (h : HandlerId)
  | remove (h : HandlerId)
deriving DecidableEq, Repr

namespace Handlers

def apply (hs : Handlers) : Change → Handlers
  | .add h => hs.add h
  | .remove h => (hs.remove h).1

/-- What whoever asks for a change is told: of a removal, whether there was something to remove. -/
def told (hs : Handlers) : Change → Bool
  | .add _ => true
  | .remove h => (hs.remove h).2

/-- The handlers after a history that began with none. -/
def replay (past : List Change) : Handlers := past.foldl apply .empty

theorem replay_concat (past : List Change) (c : Change) :
    replay (past ++ [c]) = (replay past).apply c := by
  rw [replay, List.foldl_append]
  rfl

end Handlers

/-! ## The additions that stand -/

/-- Whether a change is an addition of a handler that was not removed since. -/
def Stands (past : List Change) (i : Nat) (h : HandlerId) : Prop :=
  past[i]? = some (.add h) ∧ .remove h ∉ past.drop (i + 1)

/-- Whether a handler is registered after a history. -/
def IsRegistered (past : List Change) (h : HandlerId) : Prop := ∃ i, Stands past i h

/-- Whether a handler is the one of the earliest addition that stands and has a property. -/
def IsEarliest (past : List Change) (p : HandlerId → Bool) (h : HandlerId) : Prop :=
  ∃ i, Stands past i h ∧ p h = true ∧ ∀ j < i, ∀ g, Stands past j g → p g = false

/-- The handlers of the additions that stand, in the order of the additions. -/
def registrations : List Change → List HandlerId
  | [] => []
  | .add h :: later => if .remove h ∈ later then registrations later else h :: registrations later
  | .remove _ :: later => registrations later

section

variable {past later : List Change} {c : Change} {h : HandlerId} {p : HandlerId → Bool}

theorem stands_zero : Stands (c :: later) 0 h ↔ c = .add h ∧ .remove h ∉ later := by
  simp [Stands]

theorem stands_succ {i : Nat} : Stands (c :: later) (i + 1) h ↔ Stands later i h := by
  simp [Stands]

theorem isRegistered_cons : IsRegistered (c :: later) h
    ↔ c = .add h ∧ .remove h ∉ later ∨ IsRegistered later h := by
  constructor
  · rintro ⟨i, hi⟩
    cases i with
    | zero => exact .inl (stands_zero.mp hi)
    | succ i => exact .inr ⟨i, stands_succ.mp hi⟩
  · rintro (hfirst | ⟨i, hi⟩)
    · exact ⟨0, stands_zero.mpr hfirst⟩
    · exact ⟨i + 1, stands_succ.mpr hi⟩

theorem mem_registrations : h ∈ registrations past ↔ IsRegistered past h := by
  induction past with
  | nil => simp [registrations, IsRegistered, Stands]
  | cons c later ih =>
      rw [isRegistered_cons, ← ih]
      cases c with
      | remove g => simp [registrations]
      | add g =>
          rw [registrations]
          split
          · rename_i hgone
            constructor
            · exact .inr
            · rintro (⟨heq, hstands⟩ | hrest)
              · obtain rfl := Change.add.inj heq
                exact absurd hgone hstands
              · exact hrest
          · rename_i hstands
            rw [List.mem_cons]
            constructor
            · rintro (rfl | hrest)
              · exact .inl ⟨rfl, hstands⟩
              · exact .inr hrest
            · rintro (⟨heq, -⟩ | hrest)
              · exact .inl (Change.add.inj heq).symm
              · exact .inr hrest

/-- An addition that stands first and has the property is the earliest one. -/
theorem isEarliest_of_first {g : HandlerId} (hg : .remove g ∉ later) (hp : p g = true) :
    IsEarliest (.add g :: later) p h ↔ h = g := by
  constructor
  · rintro ⟨i, hi, -, hbefore⟩
    cases i with
    | zero => exact (Change.add.inj (stands_zero.mp hi).1).symm
    | succ i =>
        have hfalse := hbefore 0 (Nat.succ_pos i) g (stands_zero.mpr ⟨rfl, hg⟩)
        rw [hp] at hfalse
        cases hfalse
  · rintro rfl
    exact ⟨0, stands_zero.mpr ⟨rfl, hg⟩, hp, fun j hj => absurd hj (Nat.not_lt_zero j)⟩

/-- A change that is no such addition does not count. -/
theorem isEarliest_cons (hc : ∀ g, c = .add g → .remove g ∉ later → p g = false) :
    IsEarliest (c :: later) p h ↔ IsEarliest later p h := by
  constructor
  · rintro ⟨i, hi, hp, hbefore⟩
    cases i with
    | zero =>
        obtain ⟨rfl, hstands⟩ := stands_zero.mp hi
        rw [hc h rfl hstands] at hp
        cases hp
    | succ i =>
        exact ⟨i, stands_succ.mp hi, hp,
          fun j hj g hg => hbefore (j + 1) (Nat.succ_lt_succ hj) g (stands_succ.mpr hg)⟩
  · rintro ⟨i, hi, hp, hbefore⟩
    refine ⟨i + 1, stands_succ.mpr hi, hp, fun j hj g hg => ?_⟩
    cases j with
    | zero =>
        obtain ⟨rfl, hstands⟩ := stands_zero.mp hg
        exact hc g rfl hstands
    | succ j => exact hbefore j (Nat.lt_of_succ_lt_succ hj) g (stands_succ.mp hg)

theorem find?_registrations :
    (registrations past).find? p = some h ↔ IsEarliest past p h := by
  induction past with
  | nil => simp [registrations, IsEarliest, Stands]
  | cons c later ih =>
      cases c with
      | remove g =>
          rw [registrations, isEarliest_cons, ih]
          intro g' heq
          cases heq
      | add g =>
          rw [registrations]
          split
          · rename_i hgone
            rw [isEarliest_cons, ih]
            intro g' heq hstands
            obtain rfl := Change.add.inj heq
            exact absurd hgone hstands
          · rename_i hstands
            cases hp : p g with
            | true =>
                rw [List.find?_cons_of_pos hp, isEarliest_of_first hstands hp, Option.some_inj]
                exact eq_comm
            | false =>
                rw [List.find?_cons_of_neg (by simp [hp]), isEarliest_cons, ih]
                intro g' heq _
                obtain rfl := Change.add.inj heq
                exact hp

/-! ## One more change -/

theorem registrations_add (past : List Change) (h : HandlerId) :
    registrations (past ++ [.add h]) = registrations past ++ [h] := by
  induction past with
  | nil => simp [registrations]
  | cons c later ih =>
      cases c with
      | remove g => exact ih
      | add g => by_cases hg : .remove g ∈ later <;> simp [registrations, hg, ih]

theorem registrations_remove (past : List Change) (h : HandlerId) :
    registrations (past ++ [.remove h]) = (registrations past).filter (· ≠ h) := by
  induction past with
  | nil => simp [registrations]
  | cons c later ih =>
      cases c with
      | remove g => exact ih
      | add g =>
          by_cases hg : .remove g ∈ later
          · simp [registrations, hg, ih]
          · by_cases heq : g = h
            · subst heq
              simp [registrations, hg, ih]
            · simp [registrations, hg, ih, heq]

end

/-! ## Registries -/

namespace Handlers

/-- A registry holds the additions that stand, in their order. -/
theorem registered_replay (past : List Change) : (replay past).registered = registrations past := by
  induction past using List.reverseRecOn with
  | nil => rfl
  | append_singleton past c ih =>
      rw [replay_concat]
      cases c with
      | add h => rw [apply, registered_add, ih, registrations_add]
      | remove h => rw [apply, registered_remove, ih, registrations_remove]

variable {past : List Change} {supports : HandlerId → String → Bool} {name : String}

theorem find?_replay {h : HandlerId} :
    (replay past).find? supports name = some h ↔ IsEarliest past (supports · name) h := by
  rw [find?, registered_replay, find?_registrations]

theorem find?_replay_eq_none : (replay past).find? supports name = none
    ↔ ∀ h, IsRegistered past h → supports h name = false := by
  simp [find?, registered_replay, mem_registrations]

/-- Whoever asks for a removal is told whether the handler was registered. -/
theorem told_remove {h : HandlerId} :
    (replay past).told (.remove h) = true ↔ IsRegistered past h := by
  rw [told, remove_eq_true_iff, registered_replay, mem_registrations]

end Handlers

end Conclave.Node

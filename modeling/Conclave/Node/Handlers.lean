/-!
# Registered message handlers

Handlers in the order in which they were added; one may be added several times. A message goes
to the first that supports its name.
-/

namespace Conclave.Node

abbrev HandlerId := Nat

/-- The registered handlers. -/
structure Handlers where
  registered : List HandlerId
deriving DecidableEq, Repr

namespace Handlers

def empty : Handlers := ⟨[]⟩

def add (hs : Handlers) (h : HandlerId) : Handlers := ⟨hs.registered ++ [h]⟩

/-- Removes every registration of a handler; true when there was one. -/
def remove (hs : Handlers) (h : HandlerId) : Handlers × Bool :=
  (⟨hs.registered.filter (· ≠ h)⟩, hs.registered.contains h)

def find? (hs : Handlers) (supports : HandlerId → String → Bool) (name : String) :
    Option HandlerId :=
  hs.registered.find? (supports · name)

def size (hs : Handlers) : Nat := hs.registered.length

@[simp] theorem registered_add (hs : Handlers) (h : HandlerId) :
    (hs.add h).registered = hs.registered ++ [h] := rfl

@[simp] theorem registered_remove (hs : Handlers) (h : HandlerId) :
    (hs.remove h).1.registered = hs.registered.filter (· ≠ h) := rfl

/-- A handler is removed exactly when it was registered. -/
theorem remove_eq_true_iff {hs : Handlers} {h : HandlerId} :
    (hs.remove h).2 = true ↔ h ∈ hs.registered := by
  simp [remove]

end Handlers

end Conclave.Node

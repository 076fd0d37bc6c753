import Mathlib.Data.List.Forall2

/-!
# Steps that may fail

A chain of steps that comes to its end has passed every one of them, and what is read off a result
is what the result was. A step taken for every item of a list fails with the first item for which
it fails.
-/

namespace Conclave

variable {ε α β : Type}

theorem exists_of_bind_eq_ok {x : Except ε α} {f : α → Except ε β} {b : β}
    (h : x >>= f = .ok b) : ∃ a, x = .ok a ∧ f a = .ok b := by
  cases x with
  | error e => cases h
  | ok a => exact ⟨a, rfl, h⟩

theorem eq_ok_of_toOption {x : Except ε α} {a : α} (h : x.toOption = some a) : x = .ok a := by
  cases x with
  | error e => cases h
  | ok b => rw [Option.some.inj h]

/-- What is related to a list item by item is related to each of them. -/
theorem exists_of_forall₂ {R : α → β → Prop} {xs : List α} {ys : List β}
    (h : List.Forall₂ R xs ys) {x : α} (hx : x ∈ xs) : ∃ y, R x y := by
  induction h with
  | nil => cases hx
  | cons hfirst _ ih =>
      rcases List.mem_cons.mp hx with rfl | hrest
      · exact ⟨_, hfirst⟩
      · exact ih hrest

section

variable {f : α → Except ε β} {xs : List α}

theorem forall₂_of_mapM_eq_ok {ys : List β} (h : xs.mapM f = .ok ys) :
    List.Forall₂ (fun x y => f x = .ok y) xs ys := by
  induction xs generalizing ys with
  | nil =>
      obtain rfl := Except.ok.inj h
      exact .nil
  | cons x xs ih =>
      rw [List.mapM_cons] at h
      obtain ⟨y, hy, h⟩ := exists_of_bind_eq_ok h
      obtain ⟨ys, hys, h⟩ := exists_of_bind_eq_ok h
      obtain rfl := Except.ok.inj h
      exact .cons hy (ih hys)

theorem exists_of_mapM_eq_error {e : ε} (h : xs.mapM f = .error e) :
    ∃ before x after, xs = before ++ x :: after ∧ (∀ y ∈ before, ∃ b, f y = .ok b)
      ∧ f x = .error e := by
  induction xs with
  | nil => cases h
  | cons x xs ih =>
      rw [List.mapM_cons] at h
      cases hx : f x with
      | error e' =>
          rw [hx] at h
          obtain rfl := Except.error.inj h
          exact ⟨[], x, xs, rfl, by simp, hx⟩
      | ok b =>
          rw [hx] at h
          cases hxs : xs.mapM f with
          | ok bs =>
              rw [hxs] at h
              cases h
          | error e' =>
              rw [hxs] at h
              obtain rfl := Except.error.inj h
              obtain ⟨before, y, after, rfl, hbefore, hy⟩ := ih hxs
              refine ⟨x :: before, y, after, rfl, ?_, hy⟩
              intro z hz
              cases List.mem_cons.mp hz with
              | inl hzx => exact ⟨b, hzx ▸ hx⟩
              | inr hz => exact hbefore z hz

end

end Conclave

/-!
# Texts cut at a character

A text is cut at every place of a character, and the parts may be empty. Cutting undoes joining of
parts without the character (`cut_intercalate`).
-/

namespace Conclave.Text

/-- The parts of a text between the places of a character; always at least one. -/
def cut (sep : Char) : List Char → List (List Char)
  | [] => [[]]
  | c :: r => if c = sep then [] :: cut sep r else (cut sep r).modifyHead (c :: ·)

theorem exists_cut_eq_cons (sep : Char) (cs : List Char) : ∃ p ps, cut sep cs = p :: ps := by
  induction cs with
  | nil => exact ⟨[], [], rfl⟩
  | cons c r ih =>
    obtain ⟨p, ps, h⟩ := ih
    by_cases hc : c = sep
    · exact ⟨[], p :: ps, by rw [cut, if_pos hc, h]⟩
    · exact ⟨c :: p, ps, by rw [cut, if_neg hc, h]; rfl⟩

/-- Characters other than the one that cuts go to the first part. -/
theorem cut_append {sep : Char} {p : List Char} (h : sep ∉ p) (cs : List Char) :
    cut sep (p ++ cs) = (cut sep cs).modifyHead (p ++ ·) := by
  obtain ⟨q, qs, hcs⟩ := exists_cut_eq_cons sep cs
  induction p with
  | nil => simp [hcs]
  | cons c r ih =>
    simp only [List.mem_cons, not_or] at h
    simp [cut, ih h.2, hcs, Ne.symm h.1]

/-- Parts without the character that are joined with it are cut apart again. -/
theorem cut_intercalate {sep : Char} {p : List Char} {ps : List (List Char)}
    (h : ∀ q ∈ p :: ps, sep ∉ q) : cut sep ([sep].intercalate (p :: ps)) = p :: ps := by
  have hp := h p (List.mem_cons_self ..)
  induction ps generalizing p with
  | nil => simpa [cut] using cut_append hp []
  | cons q qs ih =>
    have hqs : ∀ x ∈ q :: qs, sep ∉ x := fun x hx => h x (List.mem_cons_of_mem _ hx)
    rw [List.intercalate_cons_cons, List.append_assoc, cut_append hp]
    simp [cut, ih hqs (hqs q (List.mem_cons_self ..))]

end Conclave.Text

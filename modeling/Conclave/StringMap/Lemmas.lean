import Conclave.StringMap

/-!
# Look-ups in maps

What each operation does to look-ups: `get?_insert` and `get?_erase`. A map is determined by its
look-ups (`ext_get?`), and its keys are those with a value (`mem_keys`). Made from its entries, it
is the same map (`ofList_entries`).
-/

namespace Conclave.StringMap

variable {α : Type}

/-! ## Look-ups in lists of entries -/

theorem lookup_cons_of_eq {k x : String} (h : x = k) (v : α) (es : List (String × α)) :
    List.lookup x ((k, v) :: es) = some v := by
  simp [h]

theorem lookup_cons_of_ne {k x : String} (h : x ≠ k) (v : α) (es : List (String × α)) :
    List.lookup x ((k, v) :: es) = es.lookup x := by
  rw [List.lookup_cons, beq_false_of_ne h]

theorem lookup_insertEntry (k : String) (v : α) (x : String) (es : List (String × α)) :
    (insertEntry k v es).lookup x = if x = k then some v else es.lookup x := by
  induction es with
  | nil =>
    by_cases h : x = k
    · rw [if_pos h, insertEntry, lookup_cons_of_eq h]
    · rw [if_neg h, insertEntry, lookup_cons_of_ne h]
  | cons e r ih =>
    obtain ⟨d, w⟩ := e
    unfold insertEntry
    by_cases hlt : k < d
    · rw [if_pos hlt]
      by_cases h : x = k
      · rw [if_pos h, lookup_cons_of_eq h]
      · rw [if_neg h, lookup_cons_of_ne h]
    · rw [if_neg hlt]
      by_cases he : k = d
      · subst he
        rw [if_pos rfl]
        by_cases h : x = k
        · rw [if_pos h, lookup_cons_of_eq h]
        · rw [if_neg h, lookup_cons_of_ne h, lookup_cons_of_ne h]
      · rw [if_neg he]
        by_cases hx : x = d
        · subst hx
          rw [lookup_cons_of_eq rfl, lookup_cons_of_eq rfl, if_neg (Ne.symm he)]
        · rw [lookup_cons_of_ne hx, lookup_cons_of_ne hx, ih]

theorem lookup_filter_ne (k x : String) (es : List (String × α)) :
    (es.filter (·.1 ≠ k)).lookup x = if x = k then none else es.lookup x := by
  induction es with
  | nil => simp
  | cons e r ih =>
    obtain ⟨d, w⟩ := e
    by_cases he : d = k
    · subst he
      rw [List.filter_cons_of_neg (by simp), ih]
      by_cases hx : x = d
      · rw [if_pos hx, if_pos hx]
      · rw [if_neg hx, if_neg hx, lookup_cons_of_ne hx]
    · rw [List.filter_cons_of_pos (by simpa using he)]
      by_cases hx : x = d
      · subst hx
        rw [lookup_cons_of_eq rfl, lookup_cons_of_eq rfl, if_neg he]
      · rw [lookup_cons_of_ne hx, lookup_cons_of_ne hx, ih]

theorem lookup_of_mem {es : List (String × α)} {e : String × α}
    (h : es.Pairwise (fun x y => x.1 < y.1)) (he : e ∈ es) : es.lookup e.1 = some e.2 := by
  induction es with
  | nil => cases he
  | cons d r ih =>
    have ⟨hd, hr⟩ := List.pairwise_cons.1 h
    rcases List.mem_cons.1 he with rfl | he
    · exact lookup_cons_of_eq rfl ..
    · have hne : e.1 ≠ d.1 := fun heq => String.lt_irrefl _ (heq ▸ hd e he)
      exact (lookup_cons_of_ne hne d.2 r).trans (ih hr he)

theorem mem_of_lookup {es : List (String × α)} {k : String} {v : α}
    (h : es.lookup k = some v) : (k, v) ∈ es := by
  induction es with
  | nil => cases h
  | cons e r ih =>
    obtain ⟨d, w⟩ := e
    by_cases hk : k = d
    · subst hk
      rw [lookup_cons_of_eq rfl, Option.some.injEq] at h
      exact h ▸ List.mem_cons_self ..
    · rw [lookup_cons_of_ne hk] at h
      exact List.mem_cons_of_mem _ (ih h)

/-! ## Look-ups in maps -/

@[simp] theorem get?_empty (k : String) : (empty : StringMap α).get? k = none := rfl

theorem get?_insert (m : StringMap α) (k : String) (v : α) (x : String) :
    (m.insert k v).get? x = if x = k then some v else m.get? x :=
  lookup_insertEntry k v x m.entries

@[simp] theorem get?_insert_self (m : StringMap α) (k : String) (v : α) :
    (m.insert k v).get? k = some v := by
  simp [get?_insert]

theorem get?_erase (m : StringMap α) (k x : String) :
    (m.erase k).get? x = if x = k then none else m.get? x :=
  lookup_filter_ne k x m.entries

theorem mem_entries {m : StringMap α} {k : String} {v : α} :
    (k, v) ∈ m.entries ↔ m.get? k = some v :=
  ⟨fun h => lookup_of_mem m.ascending h, mem_of_lookup⟩

theorem mem_keys {m : StringMap α} {k : String} : k ∈ m.keys ↔ m.contains k = true := by
  simp only [keys, List.mem_map, contains, Option.isSome_iff_exists]
  constructor
  · rintro ⟨⟨k, v⟩, he, rfl⟩
    exact ⟨v, mem_entries.1 he⟩
  · rintro ⟨v, hv⟩
    exact ⟨(k, v), mem_entries.2 hv, rfl⟩

/-! ## Equality of maps -/

theorem entries_eq_of_mem_iff {es ds : List (String × α)}
    (he : es.Pairwise (fun x y => x.1 < y.1)) (hd : ds.Pairwise (fun x y => x.1 < y.1))
    (h : ∀ x, x ∈ es ↔ x ∈ ds) : es = ds := by
  induction es generalizing ds with
  | nil =>
    cases ds with
    | nil => rfl
    | cons d _ => exact absurd ((h d).2 (List.mem_cons_self ..)) (by simp)
  | cons e r ih =>
    cases ds with
    | nil => exact absurd ((h e).1 (List.mem_cons_self ..)) (by simp)
    | cons d t =>
      have ⟨her, hr⟩ := List.pairwise_cons.1 he
      have ⟨hdt, ht⟩ := List.pairwise_cons.1 hd
      have hed : e = d := by
        rcases List.mem_cons.1 ((h e).1 (List.mem_cons_self ..)) with h1 | h1
        · exact h1
        · rcases List.mem_cons.1 ((h d).2 (List.mem_cons_self ..)) with h2 | h2
          · exact h2.symm
          · exact absurd (String.lt_trans (hdt e h1) (her d h2)) (String.lt_irrefl _)
      subst hed
      have hrt : ∀ x, x ∈ r ↔ x ∈ t := by
        intro x
        constructor
        · intro hx
          rcases List.mem_cons.1 ((h x).1 (List.mem_cons_of_mem _ hx)) with rfl | h1
          · exact absurd (her x hx) (String.lt_irrefl _)
          · exact h1
        · intro hx
          rcases List.mem_cons.1 ((h x).2 (List.mem_cons_of_mem _ hx)) with rfl | h1
          · exact absurd (hdt x hx) (String.lt_irrefl _)
          · exact h1
      rw [ih hr ht hrt]

theorem ext_get? {m n : StringMap α} (h : ∀ k, m.get? k = n.get? k) : m = n := by
  have he : m.entries = n.entries := by
    refine entries_eq_of_mem_iff m.ascending n.ascending fun x => ?_
    rw [mem_entries, mem_entries, h]
  cases m
  cases n
  simp only [mk.injEq]
  exact he

/-! ## Maps of lists -/

theorem lookup_eq_none_of_ne {es : List (String × α)} {k : String} (h : ∀ e ∈ es, k ≠ e.1) :
    es.lookup k = none := by
  rw [Option.eq_none_iff_forall_ne_some]
  exact fun v hv => h (k, v) (mem_of_lookup hv) rfl

/-- Entries with different keys are all found again. -/
theorem get?_foldl_insert {es : List (String × α)} (h : es.Pairwise (fun x y => x.1 ≠ y.1))
    (m : StringMap α) (k : String) :
    (es.foldl (fun m e => m.insert e.1 e.2) m).get? k = (es.lookup k).or (m.get? k) := by
  induction es generalizing m with
  | nil => rfl
  | cons e r ih =>
    obtain ⟨d, v⟩ := e
    have ⟨hd, hr⟩ := List.pairwise_cons.1 h
    rw [List.foldl_cons, ih hr, get?_insert]
    by_cases hk : k = d
    · subst hk
      rw [if_pos rfl, lookup_eq_none_of_ne hd, lookup_cons_of_eq rfl]
      rfl
    · rw [if_neg hk, lookup_cons_of_ne hk]

theorem get?_ofList {es : List (String × α)} (h : es.Pairwise (fun x y => x.1 ≠ y.1)) (k : String) :
    (ofList es).get? k = es.lookup k := by
  rw [ofList, get?_foldl_insert h, get?_empty, Option.or_none]

/-- A map is made again from its entries. -/
theorem ofList_entries (m : StringMap α) : ofList m.entries = m := by
  refine ext_get? (get?_ofList (m.ascending.imp ?_))
  intro x y hlt heq
  exact String.lt_irrefl y.1 (heq ▸ hlt)

end Conclave.StringMap

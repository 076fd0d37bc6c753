/-!
# Maps with text keys

A map from texts to values as the list of its entries in strictly ascending order of the keys,
so that two maps with the same look-ups are equal and an iteration is sorted.
-/

namespace Conclave

/-- A finite map from texts to values of `α`. -/
structure StringMap (α : Type) where
  entries : List (String × α)
  ascending : entries.Pairwise (fun x y => x.1 < y.1)
deriving DecidableEq

namespace StringMap

variable {α : Type}

/-- The entries with a new value under a key, at its place in the order. -/
def insertEntry (k : String) (v : α) : List (String × α) → List (String × α)
  | [] => [(k, v)]
  | e :: r =>
    if k < e.1 then (k, v) :: e :: r
    else if k = e.1 then (k, v) :: r
    else e :: insertEntry k v r

theorem lt_of_mem_insertEntry {k x : String} {v : α} {es : List (String × α)} {e : String × α}
    (hk : x < k) (hes : ∀ d ∈ es, x < d.1) (h : e ∈ insertEntry k v es) : x < e.1 := by
  induction es with
  | nil => simp [insertEntry] at h; simp [h, hk]
  | cons d r ih =>
    unfold insertEntry at h
    split at h
    · rcases List.mem_cons.1 h with rfl | h
      · exact hk
      · exact hes _ h
    · split at h
      · rcases List.mem_cons.1 h with rfl | h
        · exact hk
        · exact hes _ (List.mem_cons_of_mem _ h)
      · rcases List.mem_cons.1 h with rfl | h
        · exact hes _ (List.mem_cons_self ..)
        · exact ih (fun d hd => hes d (List.mem_cons_of_mem _ hd)) h

theorem ascending_insertEntry (k : String) (v : α) {es : List (String × α)}
    (h : es.Pairwise (fun x y => x.1 < y.1)) :
    (insertEntry k v es).Pairwise (fun x y => x.1 < y.1) := by
  induction es with
  | nil => simp [insertEntry]
  | cons d r ih =>
    have ⟨hd, hr⟩ := List.pairwise_cons.1 h
    unfold insertEntry
    split
    · rename_i hlt
      refine List.pairwise_cons.2 ⟨fun e he => ?_, h⟩
      rcases List.mem_cons.1 he with rfl | he
      · exact hlt
      · exact String.lt_trans hlt (hd e he)
    · split
      · rename_i heq
        exact List.pairwise_cons.2 ⟨fun e he => by simpa [heq] using hd e he, hr⟩
      · rename_i hlt hne
        have hgt : d.1 < k := Decidable.byContradiction fun h1 =>
          hne (String.le_antisymm (String.not_lt.1 h1) (String.not_lt.1 hlt))
        exact List.pairwise_cons.2 ⟨fun e he => lt_of_mem_insertEntry hgt hd he, ih hr⟩

def empty : StringMap α := ⟨[], List.Pairwise.nil⟩

instance : Inhabited (StringMap α) := ⟨empty⟩

def insert (m : StringMap α) (k : String) (v : α) : StringMap α :=
  ⟨insertEntry k v m.entries, ascending_insertEntry k v m.ascending⟩

def get? (m : StringMap α) (k : String) : Option α := m.entries.lookup k

def contains (m : StringMap α) (k : String) : Bool := (m.get? k).isSome

def erase (m : StringMap α) (k : String) : StringMap α :=
  ⟨m.entries.filter (·.1 ≠ k), m.ascending.filter _⟩

def keys (m : StringMap α) : List String := m.entries.map (·.1)

def size (m : StringMap α) : Nat := m.entries.length

/-- The map of a list of entries; a later one replaces an earlier one with the same key. -/
def ofList (es : List (String × α)) : StringMap α :=
  es.foldl (fun m e => m.insert e.1 e.2) empty

end StringMap

end Conclave

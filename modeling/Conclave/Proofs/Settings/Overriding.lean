import Conclave.Proofs.Outcome
import Conclave.Settings.Cluster
import Conclave.StringMap.Lemmas
import Mathlib.Data.List.Nodup

/-!
# What setting a value changes

A value that is set at a path of keys is found there afterwards, whatever stood in the way
(`get?_set`), and a place that the path does not lead through is left as it was (`get?_set_of_apart`).

Tables are merged entry by entry, so in what was loaded no table has two entries under one key
(`Value.Tidy`, `tidy_load`), even if a file repeats one. That is why a text of the metadata can be
looked up like any other text.
-/

namespace Conclave.Settings

/-- Two paths of keys that part at some key. -/
inductive Path.Apart : Path → Path → Prop where
  | here {k k' : String} {p q : Path} : k ≠ k' → Apart (.key k :: p) (.key k' :: q)
  | there {k : String} {p q : Path} : Apart p q → Apart (.key k :: p) (.key k :: q)

theorem Path.Apart.ne_nil {p q : Path} (h : p.Apart q) : p ≠ [] := by
  cases h <;> exact List.cons_ne_nil _ _

/-- A path of keys only. -/
def Path.OfKeys (p : Path) : Prop := ∀ step ∈ p, ∃ k, step = .key k

namespace Value

/-! ## Entries of tables -/

section

variable {k k' : String} {f : Value → Value} {entries : List (String × Value)}

theorem lookup_modifyEntry_self (k : String) (f : Value → Value) (entries : List (String × Value)) :
    (modifyEntry k f entries).lookup k = some (f ((entries.lookup k).getD nothing)) := by
  induction entries with
  | nil => simp [modifyEntry]
  | cons e r ih =>
      obtain ⟨d, v⟩ := e
      by_cases h : d = k
      · subst h
        simp [modifyEntry]
      · simp [modifyEntry, h, List.lookup_cons, beq_false_of_ne (Ne.symm h), ih]

theorem lookup_modifyEntry_of_ne (h : k' ≠ k) :
    (modifyEntry k f entries).lookup k' = entries.lookup k' := by
  induction entries with
  | nil => simp [modifyEntry, List.lookup_cons, beq_false_of_ne h]
  | cons e r ih =>
      obtain ⟨d, v⟩ := e
      by_cases hd : d = k
      · subst hd
        simp [modifyEntry, List.lookup_cons, beq_false_of_ne h]
      · simp [modifyEntry, hd, List.lookup_cons, ih]

theorem keys_modifyEntry : (modifyEntry k f entries).map Prod.fst
    = if k ∈ entries.map Prod.fst then entries.map Prod.fst else entries.map Prod.fst ++ [k] := by
  induction entries with
  | nil => simp [modifyEntry]
  | cons e r ih =>
      obtain ⟨d, v⟩ := e
      by_cases hd : d = k
      · subst hd
        simp [modifyEntry]
      · rw [modifyEntry, if_neg hd, List.map_cons, ih]
        by_cases hk : k ∈ r.map Prod.fst
        · simp [hk]
        · simp [hk, Ne.symm hd]

theorem mem_modifyEntry {e : String × Value} (h : e ∈ modifyEntry k f entries) :
    e ∈ entries ∨ ∃ v, e = (k, f v) ∧ (v = nothing ∨ (k, v) ∈ entries) := by
  induction entries with
  | nil =>
      obtain rfl : e = (k, f nothing) := by simpa [modifyEntry] using h
      exact .inr ⟨nothing, rfl, .inl rfl⟩
  | cons e' r ih =>
      obtain ⟨d, w⟩ := e'
      by_cases hd : d = k
      · subst hd
        rw [modifyEntry, if_pos rfl, List.mem_cons] at h
        rcases h with rfl | h
        · exact .inr ⟨w, rfl, .inr (List.mem_cons_self ..)⟩
        · exact .inl (List.mem_cons_of_mem _ h)
      · rw [modifyEntry, if_neg hd, List.mem_cons] at h
        rcases h with rfl | h
        · exact .inl (List.mem_cons_self ..)
        · rcases ih h with hold | ⟨v, rfl, hv⟩
          · exact .inl (List.mem_cons_of_mem _ hold)
          · exact .inr ⟨v, rfl, hv.imp_right (List.mem_cons_of_mem _)⟩

end

/-! ## Places -/

theorem modifyAt_key (f : Value → Value) (k : String) (r : Path) (v : Value) :
    modifyAt f (.key k :: r) v = table (modifyEntry k (modifyAt f r) (v.toTable?.getD [])) := by
  cases v <;> rfl

theorem get?_key (v : Value) (k : String) (r : Path) :
    v.get? (.key k :: r) = ((v.toTable?.getD []).lookup k).bind (get? · r) := by
  cases v <;> simp [get?, toTable?]

theorem get?_append (v : Value) (p q : Path) : v.get? (p ++ q) = (v.get? p).bind (get? · q) := by
  induction p generalizing v with
  | nil => simp [get?]
  | cons step r ih =>
      cases step <;> cases v <;> simp [get?, ih, Option.bind_assoc]

theorem get?_nothing {p : Path} (h : p ≠ []) : nothing.get? p = none := by
  cases p with
  | nil => exact absurd rfl h
  | cons step r => simp [get?]

/-- At a path of keys stands afterwards what was made of what stood there. -/
theorem get?_modifyAt {p : Path} (hp : p.OfKeys) (f : Value → Value) (v : Value) :
    ∃ old, (modifyAt f p v).get? p = some (f old) := by
  induction p generalizing v with
  | nil => exact ⟨v, by simp [modifyAt, get?]⟩
  | cons step r ih =>
      obtain ⟨k, rfl⟩ := hp _ (List.mem_cons_self ..)
      rw [modifyAt_key, get?_key, toTable?, Option.getD_some, lookup_modifyEntry_self,
        Option.bind_some]
      exact ih (fun step hstep => hp step (List.mem_cons_of_mem _ hstep)) _

/-- A place apart from a path is left as it was. -/
theorem get?_modifyAt_of_apart {p q : Path} (h : p.Apart q) (f : Value → Value) (v : Value) :
    (modifyAt f q v).get? p = v.get? p := by
  induction h generalizing v with
  | here hk =>
      rw [modifyAt_key, get?_key, get?_key v, toTable?, Option.getD_some,
        lookup_modifyEntry_of_ne hk]
  | @there k p q hpq ih =>
      rw [modifyAt_key, get?_key, get?_key v, toTable?, Option.getD_some, lookup_modifyEntry_self,
        Option.bind_some, ih]
      cases (v.toTable?.getD []).lookup k with
      | some w => rfl
      | none => exact get?_nothing hpq.ne_nil

theorem merge_of_toTable? {v : Value} (h : v.toTable? = none) (old : Value) :
    merge v old = v := by
  cases v with
  | table entries => cases h
  | _ => simp only [merge]

/-- A value other than a table takes its place, whatever stood there or on the way. -/
theorem get?_set {v : Value} (hv : v.toTable? = none) {p : Path} (hp : p.OfKeys) (root : Value) :
    (root.set p v).get? p = some v := by
  obtain ⟨old, hold⟩ := get?_modifyAt hp (merge v) root
  rw [Value.set, hold, merge_of_toTable? hv]

/-! ## No key twice -/

/-- Whether no table has two entries under one key, at any depth of tables. -/
inductive Tidy : Value → Prop where
  | leaf {v : Value} : v.toTable? = none → Tidy v
  | table {entries : List (String × Value)} : (entries.map Prod.fst).Nodup →
      (∀ e ∈ entries, Tidy e.2) → Tidy (table entries)

namespace Tidy

theorem entries {v : Value} (h : v.Tidy) : ((v.toTable?.getD []).map Prod.fst).Nodup
    ∧ ∀ e ∈ v.toTable?.getD [], e.2.Tidy := by
  cases h with
  | leaf hv => simp [hv]
  | table hnodup hall => exact ⟨hnodup, hall⟩

theorem nothing : Tidy nothing := .leaf rfl

theorem modifyEntry {k : String} {f : Value → Value} {l : List (String × Value)}
    (hf : ∀ v, v.Tidy → (f v).Tidy) (hnodup : (l.map Prod.fst).Nodup)
    (hall : ∀ e ∈ l, e.2.Tidy) : Tidy (.table (modifyEntry k f l)) := by
  refine .table ?_ ?_
  · rw [keys_modifyEntry]
    split
    · exact hnodup
    · rename_i hk
      exact List.nodup_append.mpr ⟨hnodup, List.nodup_singleton k,
        fun a ha b hb => ne_of_mem_of_not_mem ha (List.mem_singleton.mp hb ▸ hk)⟩
  · intro e he
    rcases mem_modifyEntry he with hold | ⟨v, rfl, rfl | hv⟩
    · exact hall e hold
    · exact hf _ nothing
    · exact hf v (hall _ hv)

theorem modifyAt {f : Value → Value} (hf : ∀ v, v.Tidy → (f v).Tidy) (p : Path) {v : Value}
    (h : v.Tidy) : (modifyAt f p v).Tidy := by
  induction p generalizing v with
  | nil => exact hf v h
  | cons step r ih =>
      cases step with
      | key k =>
          rw [modifyAt_key]
          exact modifyEntry (fun v hv => ih hv) h.entries.1 h.entries.2
      | position i => cases v <;> exact .leaf rfl

mutual

/-- What is merged into a tidy value becomes tidy, however often it repeats a key itself. -/
theorem merge : (v old : Value) → old.Tidy → (merge v old).Tidy
  | .table entries, old, h => by
      rw [Value.merge]
      exact mergeEntries entries _ h.entries.1 h.entries.2
  | .nothing, _, _ | .bool _, _, _ | .int _, _, _ | .float _, _, _ | .text _, _, _
  | .list _, _, _ => .leaf rfl

theorem mergeEntries : (l old : List (String × Value)) → (old.map Prod.fst).Nodup →
    (∀ e ∈ old, e.2.Tidy) → Tidy (.table (mergeEntries l old))
  | [], _, hnodup, hall => .table hnodup hall
  | (k, v) :: r, old, hnodup, hall => by
      have hmore := modifyEntry (k := k) (fun w hw => merge v w hw) hnodup hall
      rw [Value.mergeEntries]
      exact mergeEntries r _ hmore.entries.1 hmore.entries.2

end

theorem set {root : Value} (h : root.Tidy) (p : Path) (v : Value) : (root.set p v).Tidy :=
  modifyAt (fun old hold => merge v old hold) p h

/-- What stands at a path of keys is tidy as well. -/
theorem get? {p : Path} (hp : p.OfKeys) {root v : Value} (h : root.Tidy)
    (hv : root.get? p = some v) : v.Tidy := by
  induction p generalizing root with
  | nil =>
      rw [Value.get?, Option.some.injEq] at hv
      exact hv ▸ h
  | cons step r ih =>
      obtain ⟨k, rfl⟩ := hp _ (List.mem_cons_self ..)
      rw [get?_key, Option.bind_eq_some_iff] at hv
      obtain ⟨w, hlookup, hw⟩ := hv
      exact ih (fun step hstep => hp step (List.mem_cons_of_mem _ hstep))
        (h.entries.2 _ (StringMap.mem_of_lookup hlookup)) hw

end Tidy

end Value

/-! ## Layers -/

variable {s : Settings} {file : File} {env : Environment}

/-- Whether every variable that counts has a path apart from a place. -/
def Environment.Spares (env : Environment) (p : Path) : Prop :=
  ∀ e ∈ env, ∀ q, variablePath? e.1 = some q → p.Apart q

theorem withVariables_append (s : Settings) (before after : Environment) :
    s.withVariables (before ++ after) = (s.withVariables before).withVariables after :=
  List.foldl_append ..

theorem withVariables_cons_of_some {name : String} {q : Path} (h : variablePath? name = some q)
    (s : Settings) (t : String) (env : Environment) :
    s.withVariables ((name, t) :: env) = (s.set q (.ofVariable t)).withVariables env := by
  simp [withVariables, h]

theorem withVariables_cons_of_none {name : String} (h : variablePath? name = none)
    (s : Settings) (t : String) (env : Environment) :
    s.withVariables ((name, t) :: env) = s.withVariables env := by
  simp [withVariables, h]

theorem get?_withVariables {p : Path} (h : env.Spares p) (s : Settings) :
    (s.withVariables env).get? p = s.get? p := by
  induction env generalizing s with
  | nil => rfl
  | cons e r ih =>
      obtain ⟨name, t⟩ := e
      have hr : Environment.Spares r p := fun d hd => h d (List.mem_cons_of_mem _ hd)
      cases hq : variablePath? name with
      | none => rw [withVariables_cons_of_none hq, ih hr]
      | some q =>
          rw [withVariables_cons_of_some hq, ih hr]
          exact Value.get?_modifyAt_of_apart (h _ (List.mem_cons_self ..) q hq) _ s.root

theorem toTable?_ofVariable (t : String) : (Value.ofVariable t).toTable? = none := by
  unfold Value.ofVariable
  dsimp only
  split
  · rfl
  · split
    · rfl
    · split
      · rfl
      · split <;> rfl

/-- A variable that counts is found at its path, unless a later one stands in its way. -/
theorem get?_withVariables_of_supplied {name t : String} {before after : Environment} {p : Path}
    (hpath : variablePath? name = some p) (hp : p.OfKeys) (hafter : after.Spares p)
    (s : Settings) :
    (s.withVariables (before ++ (name, t) :: after)).get? p = some (.ofVariable t) := by
  rw [withVariables_append, withVariables_cons_of_some hpath, get?_withVariables hafter]
  exact Value.get?_set (toTable?_ofVariable t) hp _

theorem tidy_withEntries (h : s.root.Tidy) (entries : List (String × Value)) :
    (s.withEntries entries).root.Tidy := by
  induction entries generalizing s with
  | nil => exact h
  | cons e r ih => exact ih (h.set _ _)

theorem tidy_withVariables (h : s.root.Tidy) (env : Environment) :
    (s.withVariables env).root.Tidy := by
  induction env generalizing s with
  | nil => exact h
  | cons e r ih =>
      cases hq : variablePath? e.1 with
      | none =>
          rw [withVariables_cons_of_none hq]
          exact ih h
      | some q =>
          rw [withVariables_cons_of_some hq]
          exact ih (h.set _ _)

theorem load_eq_ok_iff : load file env = .ok s ↔
    ∃ s₀, load file [] = .ok s₀ ∧ s = s₀.withVariables env := by
  unfold load
  dsimp only
  split
  · simp [withVariables, eq_comm]
  · simp

/-- No table of loaded settings has two entries under one key. -/
theorem tidy_load (h : load file env = .ok s) : s.root.Tidy := by
  have hempty : Settings.empty.root.Tidy := .table List.nodup_nil (List.forall_mem_nil _)
  unfold load at h
  dsimp only at h
  split at h
  · obtain rfl := Except.ok.inj h
    exact tidy_withVariables (tidy_withEntries hempty _) _
  · cases h

/-! ## The metadata as texts -/

theorem lookup_filterMap_toText? (entries : List (String × Value)) (k : String)
    (h : entries.Pairwise fun e d => e.1 ≠ d.1) :
    (entries.filterMap fun e => e.2.toText?.map (e.1, ·)).lookup k
      = (entries.lookup k).bind Value.toText? := by
  induction entries with
  | nil => rfl
  | cons e r ih =>
      obtain ⟨d, v⟩ := e
      have ⟨hd, hr⟩ := List.pairwise_cons.mp h
      by_cases hk : k = d
      · subst hk
        rw [StringMap.lookup_cons_of_eq rfl, Option.bind_some, List.filterMap_cons]
        dsimp only
        cases v.toText? with
        | some t => exact StringMap.lookup_cons_of_eq rfl ..
        | none => exact (ih hr).trans (by rw [StringMap.lookup_eq_none_of_ne hd, Option.bind_none])
      · rw [StringMap.lookup_cons_of_ne hk, ← ih hr, List.filterMap_cons]
        dsimp only
        cases v.toText? with
        | some t => exact StringMap.lookup_cons_of_ne hk ..
        | none => rfl

/-- A text of the metadata is read like any other text. -/
theorem get?_metadata (h : s.root.Tidy) (k : String) :
    s.metadata.get? k = s.text? (clusterPath "metadata" ++ [.key k]) := by
  have hkeys : (clusterPath "metadata").OfKeys := by simp [Path.OfKeys, clusterPath]
  rw [metadata, text?, Settings.get?, Settings.get?, Value.get?_append]
  cases hv : s.root.get? (clusterPath "metadata") with
  | none => rfl
  | some v =>
      have hnodup := (h.get? hkeys hv).entries.1
      rw [List.Nodup, List.pairwise_map] at hnodup
      rw [Option.bind_some, Option.bind_some, Value.get?_key,
        StringMap.get?_ofList (hnodup.filterMap _ ?_), lookup_filterMap_toText? _ _ hnodup]
      · cases (v.toTable?.getD []).lookup k <;> simp [Value.get?]
      · intro e d hne t ht u hu
        obtain ⟨_, -, rfl⟩ := Option.map_eq_some_iff.mp ht
        obtain ⟨_, -, rfl⟩ := Option.map_eq_some_iff.mp hu
        exact hne

end Conclave.Settings

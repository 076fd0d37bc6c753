import Conclave.Json.Shape
import Mathlib.Data.List.Forall2
import Mathlib.Data.List.Nodup

/-!
# The parts of a record

`IsRecord` says which parts of a document are records of given fields, and `Holds` which part stands
in a record under the name of a field; both speak of the members or items as they are written. The
reader of records finds exactly these parts (`fields?_of_isRecord`, `part?_eq_some_iff`), and so a
reader of a field decides whether the field is given and says what it has to say
(`required_eq_some_iff`, `defaulted_eq_some_iff`).
-/

namespace Conclave.Json.Source

/-- An object whose keys are texts, none of the names among them twice, or an array with at most one
item for each name. -/
def IsRecord (names : List String) : Source → Prop
  | .array items => items.length ≤ names.length
  | .object members =>
    (∀ m ∈ members, m.1 ≠ none) ∧ ∀ n ∈ names, (members.filter (·.1 == some n)).length ≤ 1
  | _ => False

/-- A part stands under a name: as a member with this key, or as the item at the place that the name
has among the names. -/
def Holds (names : List String) (s : Source) (name : String) (part : Source) : Prop :=
  match s with
  | .array items => ∃ i : Nat, names[i]? = some name ∧ items[i]? = some part
  | .object members => (some name, part) ∈ members
  | _ => False

def Lacks (names : List String) (s : Source) (name : String) : Prop :=
  ∀ part, ¬ s.Holds names name part

/-- The field of a name is there, and it says `x`. -/
def Gives {α : Type} (names : List String) (s : Source) (name : String) (Says : Source → α → Prop)
    (x : α) : Prop :=
  ∃ part, s.Holds names name part ∧ Says part x

/-- The field of a name says `x`, which is `value` where the field is not there. -/
def GivesOr {α : Type} (names : List String) (s : Source) (name : String)
    (Says : Source → α → Prop) (value x : α) : Prop :=
  s.Gives names name Says x ∨ s.Lacks names name ∧ x = value

/-! ## The reader of records -/

/-- The part that is looked up under a name. -/
def part? (names : List String) (s : Source) (name : String) : Option Source :=
  match s with
  | .array items => items[names.idxOf name]?
  | .object members => (members.find? (·.1 == some name)).map (·.2)
  | _ => none

variable {names : List String} {s : Source} {name : String}

theorem fields?_of_isRecord (hnames : names.Nodup) (hs : s.IsRecord names) :
    s.fields? names = some (names.map (s.part? names)) := by
  match s, hs with
  | .array items, hs =>
      have hlength : items.length ≤ names.length := hs
      have hplace : (List.range names.length).map (fun i => items[i]?)
          = names.map fun n => items[names.idxOf n]? := by
        refine List.ext_getElem (by simp) fun i hi _ => ?_
        have hlt : i < names.length := by simpa using hi
        simp only [List.getElem_map, List.getElem_range, hnames.idxOf_getElem i hlt]
      rw [fields?, if_pos hlength, hplace]
      rfl
  | .object members, ⟨hkeys, honce⟩ =>
      have hrefuse : ¬ (members.any (·.1.isNone)
          || names.any fun n => 1 < (members.filter (·.1 == some n)).length) = true := by
        simp only [Bool.or_eq_true, List.any_eq_true, Option.isNone_iff_eq_none, decide_eq_true_eq,
          not_or, not_exists, not_and, Nat.not_lt]
        exact ⟨hkeys, honce⟩
      rw [fields?, if_neg hrefuse]
      rfl

theorem fields?_of_not_isRecord (hs : ¬ s.IsRecord names) : s.fields? names = none := by
  match s with
  | .array items => exact if_neg hs
  | .object members =>
      refine if_pos ?_
      by_contra hrefuse
      simp only [Bool.or_eq_true, List.any_eq_true, Option.isNone_iff_eq_none, decide_eq_true_eq,
        not_or, not_exists, not_and, Nat.not_lt] at hrefuse
      exact hs hrefuse
  | .null | .bool _ | .number _ | .text _ => rfl

/-- Where a name is a key at most once, the part found is the only one under it. -/
theorem find?_eq_some_iff_mem {members : List (Option String × Source)} {part : Source}
    (honce : (members.filter (·.1 == some name)).length ≤ 1) :
    (members.find? (·.1 == some name)).map (·.2) = some part ↔ (some name, part) ∈ members := by
  have hmem : (some name, part) ∈ members
      ↔ (some name, part) ∈ members.filter (·.1 == some name) := by
    simp [List.mem_filter]
  rw [hmem, ← List.head?_filter]
  have hkeys : ∀ m ∈ members.filter (·.1 == some name), m.1 = some name := fun m hm => by
    simpa using (List.mem_filter.mp hm).2
  generalize members.filter (·.1 == some name) = found at honce hkeys ⊢
  match found, honce, hkeys with
  | [], _, _ => simp
  | [(k, p)], _, hkeys =>
      obtain rfl : k = some name := hkeys (k, p) (List.mem_cons_self ..)
      simp [eq_comm]
  | _ :: _ :: _, honce, _ => simp at honce

theorem part?_eq_some_iff (hnames : names.Nodup) (hs : s.IsRecord names) (hname : name ∈ names)
    {part : Source} : s.part? names name = some part ↔ s.Holds names name part := by
  match s, hs with
  | .array items, _ =>
      have hlt : names.idxOf name < names.length := List.idxOf_lt_length_of_mem hname
      have hidx : names[names.idxOf name]? = some name := by
        rw [List.getElem?_eq_getElem hlt, List.getElem_idxOf hlt]
      constructor
      · exact fun hpart => ⟨names.idxOf name, hidx, hpart⟩
      · rintro ⟨i, hi, hpart⟩
        obtain ⟨hilt, rfl⟩ := List.getElem?_eq_some_iff.mp hi
        rw [part?, hnames.idxOf_getElem i hilt]
        exact hpart
  | .object members, ⟨_, honce⟩ => exact find?_eq_some_iff_mem (honce name hname)

theorem part?_eq_none_iff (hnames : names.Nodup) (hs : s.IsRecord names) (hname : name ∈ names) :
    s.part? names name = none ↔ s.Lacks names name := by
  rw [Option.eq_none_iff_forall_ne_some]
  exact forall_congr' fun part => not_congr (part?_eq_some_iff hnames hs hname)

/-- A record holds one part under a name. -/
theorem Holds.unique (hnames : names.Nodup) (hs : s.IsRecord names) (hname : name ∈ names)
    {part other : Source} (h : s.Holds names name part) (ho : s.Holds names name other) :
    part = other := by
  rw [← part?_eq_some_iff hnames hs hname] at h ho
  exact Option.some.inj (h.symm.trans ho)

/-! ## Readers of fields -/

variable {α : Type} {read? : Source → Option α} {Says : Source → α → Prop}

theorem Gives.not_lacks {x : α} (h : s.Gives names name Says x) : ¬ s.Lacks names name := by
  obtain ⟨part, hpart, -⟩ := h
  exact fun hlacks => hlacks part hpart

/-- What a field gives is said by every part under its name. -/
theorem Gives.of_holds (hnames : names.Nodup) (hs : s.IsRecord names) (hname : name ∈ names) {x : α}
    (h : s.Gives names name Says x) {part : Source} (hpart : s.Holds names name part) :
    Says part x := by
  obtain ⟨given, hgiven, hx⟩ := h
  rw [Holds.unique hnames hs hname hpart hgiven]
  exact hx

theorem GivesOr.gives {value x : α} (h : s.GivesOr names name Says value x) {part : Source}
    (hpart : s.Holds names name part) : s.Gives names name Says x :=
  h.resolve_right fun hlacks => hlacks.1 part hpart

theorem required_eq_some_iff (hnames : names.Nodup) (hs : s.IsRecord names) (hname : name ∈ names)
    (hread : ∀ part x, read? part = some x ↔ Says part x) (x : α) :
    required read? (s.part? names name) = some x ↔ s.Gives names name Says x := by
  rw [required, Option.bind_eq_some_iff]
  exact exists_congr fun part =>
    and_congr (part?_eq_some_iff hnames hs hname) (hread part x)

theorem defaulted_eq_some_iff (hnames : names.Nodup) (hs : s.IsRecord names)
    (hname : name ∈ names) (hread : ∀ part x, read? part = some x ↔ Says part x) (value x : α) :
    defaulted value read? (s.part? names name) = some x ↔ s.GivesOr names name Says value x := by
  rw [GivesOr, ← required_eq_some_iff hnames hs hname hread x, ← part?_eq_none_iff hnames hs hname]
  cases s.part? names name with
  | none => simp [defaulted, required, eq_comm]
  | some part => simp [defaulted, required]

theorem mapM_eq_some_iff (hread : ∀ part x, read? part = some x ↔ Says part x)
    {items : List Source} {xs : List α} :
    items.mapM read? = some xs ↔ List.Forall₂ Says items xs := by
  induction items generalizing xs with
  | nil => simp [eq_comm]
  | cons item r ih =>
      rw [List.mapM_cons, List.forall₂_cons_left_iff]
      simp only [Option.bind_eq_bind, Option.bind_eq_some_iff, Option.pure_def, Option.some.injEq,
        hread, ih]
      constructor
      · rintro ⟨x, hx, ys, hys, rfl⟩
        exact ⟨x, ys, hx, hys, rfl⟩
      · rintro ⟨x, ys, hx, hys, rfl⟩
        exact ⟨x, hx, ys, hys, rfl⟩

theorem list?_eq_some_iff (hread : ∀ part x, read? part = some x ↔ Says part x) (part : Source)
    (xs : List α) :
    list? read? part = some xs ↔ ∃ items, part = .array items ∧ List.Forall₂ Says items xs := by
  cases part with
  | array items =>
      rw [list?, mapM_eq_some_iff hread]
      simp
  | _ => simp [list?]

theorem nullable?_eq_some_iff (hread : ∀ part x, read? part = some x ↔ Says part x)
    (hnull : read? .null = none) (part : Source) (x : Option α) :
    nullable? read? part = some x
      ↔ part = .null ∧ x = none ∨ ∃ y, x = some y ∧ Says part y := by
  simp only [← hread]
  cases part with
  | null => simp [nullable?, hnull, eq_comm]
  | _ =>
      simp only [nullable?, Option.map_eq_some_iff, reduceCtorEq, false_and, false_or]
      exact exists_congr fun y => and_comm.trans (and_congr_left' eq_comm)

end Conclave.Json.Source

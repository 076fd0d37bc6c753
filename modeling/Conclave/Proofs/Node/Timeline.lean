import Conclave.Node.Background
import Conclave.Proofs.Node.Sightings
import Mathlib.Data.List.Dedup
import Mathlib.Data.List.Induction
import Mathlib.Data.List.Perm.Subperm

/-!
# The answers of a store over its whole history

What a store of sightings answers is told here from its history alone (`Retained`): an identity is
remembered from its first sighting, until it is as old as the retention time, or until a trimming
finds that it is old enough. The store is tied to this rule by what its entries say about the past
(`Recalls`), one use at a time.

Uses may be left out that do not concern an identity, or that trim what is forgotten anyway. What
is then left of the store is what is left of its entries (`Thinned`), so nothing else changes.
-/

namespace Conclave.Node.Sightings

open Wire

/-! ## Histories -/

def empty (ttl : Time) (capacity : Nat) : Sightings := ⟨ttl, capacity, []⟩

/-- What a store is used for. -/
inductive Use where
  | see (now : Time) (id : MessageId)
  | trim (now age : Time)
deriving DecidableEq, Repr

def Use.time : Use → Time
  | .see now _ => now
  | .trim now _ => now

def Use.id? : Use → Option MessageId
  | .see _ id => some id
  | .trim .. => none

/-- A use, and whether the answer was that the identity is remembered. -/
structure Record where
  use : Use
  repeated : Bool
deriving DecidableEq, Repr

def apply (s : Sightings) : Use → Sightings × Bool
  | .see now id => s.see now id
  | .trim now age => (s.trim now age, false)

def applyAll (s : Sightings) (us : List Use) : Sightings := us.foldl (fun s u => (s.apply u).1) s

/-- The history of a store that is put to some uses. -/
def chronicle (s : Sightings) : List Use → List Record
  | [] => []
  | u :: us => ⟨u, (s.apply u).2⟩ :: (s.apply u).1.chronicle us

/-- A use that does not trim what was sighted at a time. -/
def Use.Spares (t : Time) (u : Use) : Prop := ∀ now age, u = .trim now age → now < t + age

/-- A first sighting that no later use has trimmed. -/
def Sighted (past : List Record) (id : MessageId) (t : Time) : Prop :=
  ∃ before after, past = before ++ ⟨.see t id, false⟩ :: after ∧ ∀ r ∈ after, r.use.Spares t

/-- A first sighting that is neither trimmed nor too old. -/
def Retained (ttl : Time) (past : List Record) (now : Time) (id : MessageId) : Prop :=
  ∃ t, Sighted past id t ∧ now < t + ttl

/-- No more identities are retained than there is room for. -/
def Fits (ttl : Time) (capacity : Nat) (past : List Record) (now : Time) : Prop :=
  ∀ ids : List MessageId, ids.Nodup → (∀ id ∈ ids, Retained ttl past now id) →
    ids.length ≤ capacity

/-- After each use of an empty store there is room for what is retained. -/
def Roomy (ttl : Time) (capacity : Nat) (us : List Use) : Prop :=
  ∀ before u after, us = before ++ u :: after →
    Fits ttl capacity ((empty ttl capacity).chronicle (before ++ [u])) u.time

def Ordered (us : List Use) : Prop := us.Pairwise fun u v => u.time ≤ v.time

instance (us : List Use) : Decidable (Ordered us) := inferInstanceAs (Decidable (us.Pairwise _))

variable {s s' : Sightings} {ttl now later age t : Time} {capacity : Nat} {id : MessageId}
  {past : List Record} {r : Record} {u : Use} {us vs : List Use}

theorem applyAll_append : s.applyAll (us ++ vs) = (s.applyAll us).applyAll vs :=
  List.foldl_append ..

theorem chronicle_append :
    s.chronicle (us ++ vs) = s.chronicle us ++ (s.applyAll us).chronicle vs := by
  induction us generalizing s with
  | nil => rfl
  | cons u us ih =>
      rw [List.cons_append, chronicle, chronicle, ih]
      rfl

theorem chronicle_concat :
    s.chronicle (us ++ [u]) = s.chronicle us ++ [⟨u, ((s.applyAll us).apply u).2⟩] :=
  chronicle_append

theorem applyAll_concat : s.applyAll (us ++ [u]) = ((s.applyAll us).apply u).1 := applyAll_append

theorem use_mem_of_mem_chronicle (h : r ∈ s.chronicle us) : r.use ∈ us := by
  induction us generalizing s with
  | nil => cases h
  | cons u us ih =>
      rcases List.mem_cons.mp h with rfl | hrest
      · exact List.mem_cons_self
      · exact List.mem_cons_of_mem u (ih hrest)

/-! ## What the last use adds to a history -/

theorem sighted_concat :
    Sighted (past ++ [r]) id t ↔ r = ⟨.see t id, false⟩ ∨ Sighted past id t ∧ r.use.Spares t := by
  constructor
  · rintro ⟨before, after, hpast, hspared⟩
    rcases List.eq_nil_or_concat after with rfl | ⟨init, last, rfl⟩
    · exact .inl (List.singleton_inj.mp (List.append_inj_right' hpast rfl))
    · rw [List.concat_eq_append, ← List.cons_append, ← List.append_assoc] at hpast
      obtain ⟨rfl, hlast⟩ := List.append_inj' hpast rfl
      obtain rfl := List.singleton_inj.mp hlast
      rw [List.concat_eq_append] at hspared
      refine .inr ⟨⟨before, init, rfl, fun x hx => ?_⟩, ?_⟩
      · exact hspared x (List.mem_append_left _ hx)
      · exact hspared r (List.mem_append_right _ (List.mem_singleton_self r))
  · rintro (rfl | ⟨⟨before, after, rfl, hspared⟩, hr⟩)
    · exact ⟨past, [], rfl, fun x hx => by cases hx⟩
    · refine ⟨before, after ++ [r], by rw [List.append_assoc, List.cons_append], fun x hx => ?_⟩
      rcases List.mem_append.mp hx with hold | hnew
      · exact hspared x hold
      · rw [List.mem_singleton.mp hnew]
        exact hr

theorem Use.spares_see : (Use.see now id).Spares t := fun _ _ h => Use.noConfusion h

theorem Use.spares_trim : (Use.trim now age).Spares t ↔ now < t + age := by
  constructor
  · intro h
    exact h now age rfl
  · rintro h _ _ ⟨⟩
    exact h

theorem not_sighted_nil : ¬ Sighted [] id t := by
  rintro ⟨before, after, hpast, -⟩
  exact List.append_ne_nil_of_right_ne_nil before (List.cons_ne_nil _ after) hpast.symm

/-! ## What single uses do to the entries -/

theorem remembers_iff_mem_refresh :
    s.remembers now id = true ↔ ∃ t, (id, t) ∈ (s.refresh now).entries := by
  simp only [remembers_iff, mem_refresh]

theorem see_repeated : (s.see now id).2 = s.remembers now id := by
  cases hknown : s.remembers now id with
  | true => rw [see, if_pos hknown]
  | false =>
      rw [see, if_neg (ne_true_of_eq_false hknown)]
      split <;> rfl

theorem retention_apply : (s.apply u).1.retention = s.retention := by
  cases u with
  | see now id =>
      rw [apply, see]
      split
      · rfl
      · split <;> rfl
  | trim now age => rfl

theorem capacity_apply : (s.apply u).1.capacity = s.capacity := by
  cases u with
  | see now id =>
      rw [apply, see]
      split
      · rfl
      · split <;> rfl
  | trim now age => rfl

theorem retention_applyAll : (s.applyAll us).retention = s.retention := by
  induction us generalizing s with
  | nil => rfl
  | cons u us ih => exact ih.trans retention_apply

theorem capacity_applyAll : (s.applyAll us).capacity = s.capacity := by
  induction us generalizing s with
  | nil => rfl
  | cons u us ih => exact ih.trans capacity_apply

/-! ## The entries tell the past -/

/-- What the entries of a store say about its past: each stands for a sighting that is not trimmed,
and those are missing only that are too old. -/
structure Recalls (ttl : Time) (past : List Record) (now : Time) (s : Sightings) : Prop where
  retention : s.retention = ttl
  distinct : (s.entries.map Prod.fst).Nodup
  sighted : ∀ e ∈ s.entries, Sighted past e.1 e.2 ∧ e.2 ≤ now
  recalled : ∀ id t, Sighted past id t → now < t + ttl → (id, t) ∈ s.entries

theorem recalls_empty : Recalls ttl [] now (empty ttl capacity) where
  retention := rfl
  distinct := List.nodup_nil
  sighted := fun e he => by cases he
  recalled := fun id t h => absurd h not_sighted_nil

namespace Recalls

theorem mono (h : Recalls ttl past now s) (hle : now ≤ later) : Recalls ttl past later s where
  retention := h.retention
  distinct := h.distinct
  sighted := fun e he => ⟨(h.sighted e he).1, Nat.le_trans (h.sighted e he).2 hle⟩
  recalled := fun id t hseen hyoung => h.recalled id t hseen (Nat.lt_of_le_of_lt hle hyoung)

/-- What a store remembers is what its past retains. -/
theorem remembers_iff (h : Recalls ttl past now s) :
    s.remembers now id = true ↔ Retained ttl past now id := by
  rw [Sightings.remembers_iff, h.retention]
  constructor
  · rintro ⟨t, hmem, hyoung⟩
    exact ⟨t, (h.sighted _ hmem).1, hyoung⟩
  · rintro ⟨t, hseen, hyoung⟩
    exact ⟨t, h.recalled id t hseen hyoung, hyoung⟩

/-- What a trimming leaves is retained, so that there is room for it. -/
theorem length_filter_le (h : Recalls ttl past now s)
    (hfits : Fits ttl capacity (past ++ [⟨.trim now age, false⟩]) now) :
    ((s.refresh now).entries.filter fun e => now < e.2 + age).length ≤ capacity := by
  let kept := (s.refresh now).entries.filter fun e => now < e.2 + age
  have hsub : kept.Sublist s.entries := List.filter_sublist.trans List.filter_sublist
  have hretained : ∀ id ∈ kept.map Prod.fst,
      Retained ttl (past ++ [⟨.trim now age, false⟩]) now id := by
    intro id hid
    obtain ⟨e, he, rfl⟩ := List.mem_map.mp hid
    obtain ⟨hlive, hspared⟩ := List.mem_filter.mp he
    obtain ⟨hmem, hyoung⟩ := mem_refresh.mp hlive
    rw [h.retention] at hyoung
    refine ⟨e.2, sighted_concat.mpr (.inr ⟨(h.sighted e hmem).1, ?_⟩), hyoung⟩
    exact Use.spares_trim.mpr (of_decide_eq_true hspared)
  have hroom := hfits (kept.map Prod.fst) ((hsub.map _).nodup h.distinct) hretained
  rwa [List.length_map] at hroom

/-- A repeated sighting changes neither the store nor what is retained. -/
theorem repeated (h : Recalls ttl past now s) :
    Recalls ttl (past ++ [⟨.see now id, true⟩]) now s where
  retention := h.retention
  distinct := h.distinct
  sighted := by
    intro e he
    exact ⟨sighted_concat.mpr (.inr ⟨(h.sighted e he).1, Use.spares_see⟩), (h.sighted e he).2⟩
  recalled := by
    intro i t hseen hyoung
    rcases sighted_concat.mp hseen with hr | ⟨hold, -⟩
    · cases hr
    · exact h.recalled i t hold hyoung

theorem first (h : Recalls ttl past now s) (hnew : s.remembers now id = false) :
    Recalls ttl (past ++ [⟨.see now id, false⟩]) now
      { s with entries := (s.refresh now).entries ++ [(id, now)] } where
  retention := h.retention
  distinct := by
    rw [List.map_append, List.nodup_append]
    refine ⟨(List.filter_sublist.map _).nodup h.distinct, List.pairwise_singleton .., ?_⟩
    rintro i hi j hj rfl
    obtain rfl : i = id := List.mem_singleton.mp hj
    obtain ⟨⟨i, t⟩, he, rfl⟩ := List.mem_map.mp hi
    exact Bool.false_ne_true (hnew.symm.trans (remembers_iff_mem_refresh.mpr ⟨t, he⟩))
  sighted := by
    intro e he
    rcases List.mem_append.mp he with hold | hlast
    · have hseen := h.sighted e (mem_refresh.mp hold).1
      exact ⟨sighted_concat.mpr (.inr ⟨hseen.1, Use.spares_see⟩), hseen.2⟩
    · obtain rfl := List.mem_singleton.mp hlast
      exact ⟨sighted_concat.mpr (.inl rfl), Nat.le_refl now⟩
  recalled := by
    intro i t hseen hyoung
    rcases sighted_concat.mp hseen with hr | ⟨hold, -⟩
    · cases hr
      exact List.mem_append_right _ (List.mem_singleton_self _)
    · refine List.mem_append_left _ (mem_refresh.mpr ⟨h.recalled i t hold hyoung, ?_⟩)
      rw [h.retention]
      exact hyoung

/-- A store without room can take in nothing, and nothing is to be retained. -/
theorem unkept (h : Recalls ttl past now s) (hnothing : capacity = 0)
    (hfits : Fits ttl capacity (past ++ [⟨.see now id, false⟩]) now) :
    Recalls ttl (past ++ [⟨.see now id, false⟩]) now s where
  retention := h.retention
  distinct := h.distinct
  sighted := by
    intro e he
    exact ⟨sighted_concat.mpr (.inr ⟨(h.sighted e he).1, Use.spares_see⟩), (h.sighted e he).2⟩
  recalled := by
    intro i t hseen hyoung
    have hroom := hfits [i] (List.pairwise_singleton ..) fun j hj => by
      rw [List.mem_singleton.mp hj]
      exact ⟨t, hseen, hyoung⟩
    rw [hnothing] at hroom
    exact absurd hroom (Nat.not_succ_le_zero 0)

theorem trimmed (h : Recalls ttl past now s)
    (hfits : Fits ttl s.capacity (past ++ [⟨.trim now age, false⟩]) now) :
    Recalls ttl (past ++ [⟨.trim now age, false⟩]) now (s.trim now age) := by
  have hentries := entries_trim (h.length_filter_le hfits)
  refine ⟨h.retention, ?_, fun e he => ?_, fun i t hseen hyoung => ?_⟩
  · rw [hentries]
    exact ((List.filter_sublist.trans List.filter_sublist).map _).nodup h.distinct
  · obtain ⟨hmem, hspared⟩ := mem_trim he
    refine ⟨sighted_concat.mpr (.inr ⟨(h.sighted e hmem).1, ?_⟩), (h.sighted e hmem).2⟩
    exact Use.spares_trim.mpr hspared
  · rcases sighted_concat.mp hseen with hr | ⟨hold, hspared⟩
    · cases hr
    · rw [hentries]
      refine List.mem_filter.mpr ⟨mem_refresh.mpr ⟨h.recalled i t hold hyoung, ?_⟩, ?_⟩
      · rw [h.retention]
        exact hyoung
      · exact decide_eq_true (Use.spares_trim.mp hspared)

/-- Every use leaves a store that tells the longer past. -/
theorem apply (h : Recalls ttl past u.time s)
    (hfits : Fits ttl s.capacity (past ++ [⟨u, (s.apply u).2⟩]) u.time) :
    Recalls ttl (past ++ [⟨u, (s.apply u).2⟩]) u.time (s.apply u).1 := by
  cases u with
  | trim now age => exact h.trimmed hfits
  | see now id =>
      have h : Recalls ttl past now s := h
      cases hknown : s.remembers now id with
      | true =>
          have hsee : s.apply (.see now id) = (s, true) := if_pos hknown
          rw [hsee]
          exact h.repeated
      | false =>
          rcases Nat.eq_zero_or_pos s.capacity with hnothing | hroom
          · have hsee : s.apply (.see now id) = (s, false) := see_of_no_room hknown hnothing
            rw [hsee] at hfits ⊢
            exact h.unkept hnothing hfits
          · have hsee := see_of_not_remembers hknown hroom
            rw [Sightings.apply, hsee]
            exact h.first hknown

end Recalls

theorem Ordered.of_append (h : Ordered (us ++ vs)) : Ordered us := (List.pairwise_append.mp h).1

theorem Roomy.of_append (h : Roomy ttl capacity (us ++ vs)) : Roomy ttl capacity us := by
  rintro before u after rfl
  exact h before u (after ++ vs) (by rw [List.append_assoc, List.cons_append])

theorem Roomy.fits (h : Roomy ttl capacity (us ++ [u])) :
    let s := (empty ttl capacity).applyAll us
    Fits ttl s.capacity ((empty ttl capacity).chronicle us ++ [⟨u, (s.apply u).2⟩]) u.time := by
  have hlast := h us u [] rfl
  rw [chronicle_concat] at hlast
  dsimp only
  rw [capacity_applyAll]
  exact hlast

/-- There is room if no more identities are seen than there is room for. -/
theorem Roomy.of_seen (h : (us.filterMap Use.id?).dedup.length ≤ capacity) :
    Roomy ttl capacity us := by
  rintro before u after rfl kept hnodup hkept
  have hsub : kept ⊆ ((before ++ u :: after).filterMap Use.id?).dedup := by
    intro id hid
    obtain ⟨t, ⟨older, later, hpast, -⟩, -⟩ := hkept id hid
    have hmem : ⟨.see t id, false⟩ ∈ (empty ttl capacity).chronicle (before ++ [u]) := by
      rw [hpast]
      exact List.mem_append_right older List.mem_cons_self
    have huse : .see t id ∈ before ++ u :: after := by
      rw [List.append_cons]
      exact List.mem_append_left after (use_mem_of_mem_chronicle hmem)
    exact List.mem_dedup.mpr (List.mem_filterMap.mpr ⟨_, huse, rfl⟩)
  exact Nat.le_trans (List.subperm_of_subset hnodup hsub).length_le h

theorem Ordered.time_le (h : Ordered (us ++ [u])) : ∀ v ∈ us, v.time ≤ u.time := by
  intro v hv
  exact (List.pairwise_append.mp h).2.2 v hv u (List.mem_singleton_self u)

/-- An empty store, once used, tells its history at every time that is not past. -/
theorem recalls_applyAll (hordered : Ordered us) (hroomy : Roomy ttl capacity us)
    (hnow : ∀ u ∈ us, u.time ≤ now) :
    Recalls ttl ((empty ttl capacity).chronicle us) now ((empty ttl capacity).applyAll us) := by
  induction us using List.reverseRecOn generalizing now with
  | nil => exact recalls_empty
  | append_singleton us u ih =>
      have hbefore := ih hordered.of_append hroomy.of_append hordered.time_le
      rw [chronicle_concat, applyAll_concat]
      exact (hbefore.apply hroomy.fits).mono
        (hnow u (List.mem_append_right us (List.mem_singleton_self u)))

/-! ## Uses that are left out -/

/-- A choice of uses that leaves out identities as a whole, and of the trimmings only those that
trim what is forgotten anyway. -/
structure Selects (ttl : Time) (keep : Use → Bool) : Prop where
  see : ∀ now later id, keep (.see now id) = keep (.see later id)
  trim : ∀ now age, keep (.trim now age) = false → ttl ≤ age

/-- A store that holds of another one what is kept, and nothing else. -/
structure Thinned (kept : MessageId → Bool) (now : Time) (s s' : Sightings) : Prop where
  retention : s'.retention = s.retention
  capacity : s'.capacity = s.capacity
  entries : (s'.refresh now).entries = (s.refresh now).entries.filter fun e => kept e.1

theorem entries_refresh_later (hle : now ≤ later) :
    (s.refresh later).entries
      = (s.refresh now).entries.filter fun e => later < e.2 + s.retention := by
  simp only [refresh, List.filter_filter]
  refine List.filter_congr fun e _ => ?_
  rw [← Bool.decide_and]
  exact decide_eq_decide.mpr ⟨fun h => ⟨h, Nat.lt_of_le_of_lt hle h⟩, And.left⟩

namespace Thinned

variable {kept : MessageId → Bool}

theorem refl_of_nil (h : s.entries = []) : Thinned kept now s s :=
  ⟨rfl, rfl, by rw [refresh, h]; rfl⟩

theorem mono (h : Thinned kept now s s') (hle : now ≤ later) : Thinned kept later s s' where
  retention := h.retention
  capacity := h.capacity
  entries := by
    rw [entries_refresh_later hle, entries_refresh_later hle, h.entries, h.retention]
    exact List.filter_comm ..

theorem remembers (h : Thinned kept now s s') (hkept : kept id = true) :
    s'.remembers now id = s.remembers now id := by
  rw [Bool.eq_iff_iff, remembers_iff_mem_refresh, remembers_iff_mem_refresh, h.entries]
  simp only [List.mem_filter, hkept, and_true]

theorem of_entries (hretention : s'.retention = s.retention) (hcapacity : s'.capacity = s.capacity)
    (h : s'.entries = s.entries.filter fun e => kept e.1) : Thinned kept now s s' where
  retention := hretention
  capacity := hcapacity
  entries := by
    rw [refresh, refresh, h, hretention]
    exact List.filter_comm ..

theorem of_refresh (h : Thinned kept now s (s'.refresh now)) : Thinned kept now s s' :=
  ⟨h.retention, h.capacity, by rw [← h.entries, refresh_refresh]⟩

theorem see_kept (h : Thinned kept now s s') (hkept : kept id = true) :
    Thinned kept now (s.see now id).1 (s'.see now id).1
      ∧ (s'.see now id).2 = (s.see now id).2 := by
  have hsame := h.remembers hkept
  cases hknown : s.remembers now id with
  | true =>
      rw [see, if_pos hknown, see, if_pos (hsame.trans hknown)]
      exact ⟨h, rfl⟩
  | false =>
      rcases Nat.eq_zero_or_pos s.capacity with hnothing | hroom
      · rw [see_of_no_room hknown hnothing,
          see_of_no_room (hsame.trans hknown) (h.capacity.trans hnothing)]
        exact ⟨h, rfl⟩
      · rw [see_of_not_remembers hknown hroom,
          see_of_not_remembers (hsame.trans hknown) (h.capacity ▸ hroom)]
        refine ⟨of_entries h.retention h.capacity ?_, rfl⟩
        have hlast : [(id, now)].filter (fun e => kept e.1) = [(id, now)] :=
          List.filter_cons_of_pos hkept
        rw [List.filter_append, hlast, h.entries]

/-- A store may take in what is left out, for that is not kept. -/
theorem see_left (h : Thinned kept now s s') (hleft : kept id = false) :
    Thinned kept now (s.see now id).1 s' := by
  rw [see]
  split
  · exact h
  · split
    · exact h
    · refine of_refresh (of_entries h.retention h.capacity ?_)
      have hlast : [(id, now)].filter (fun e => kept e.1) = [] :=
        List.filter_cons_of_neg (ne_true_of_eq_false hleft)
      rw [List.filter_append, hlast, List.append_nil, h.entries]

theorem trim_kept (h : Thinned kept now s s')
    (hroom : ((s.refresh now).entries.filter fun e => now < e.2 + age).length ≤ s.capacity) :
    Thinned kept now (s.trim now age) (s'.trim now age) := by
  refine of_entries h.retention h.capacity ?_
  have hentries : (s'.refresh now).entries.filter (fun e => now < e.2 + age)
      = ((s.refresh now).entries.filter fun e => now < e.2 + age).filter fun e => kept e.1 := by
    rw [h.entries]
    exact List.filter_comm ..
  rw [entries_trim hroom, entries_trim, hentries]
  rw [hentries, h.capacity]
  exact Nat.le_trans (List.length_filter_le ..) hroom

theorem trim_left (h : Thinned kept now s s') (hage : s.retention ≤ age)
    (hroom : ((s.refresh now).entries.filter fun e => now < e.2 + age).length ≤ s.capacity) :
    Thinned kept now (s.trim now age) s' := by
  refine of_refresh (of_entries h.retention h.capacity ?_)
  rw [entries_trim hroom, filter_refresh hage, h.entries]

variable {keep : Use → Bool}

theorem apply_kept (h : Thinned (fun id => keep (.see 0 id)) u.time s s')
    (hkeep : Selects ttl keep) (hpast : Recalls ttl past u.time s)
    (hfits : Fits ttl s.capacity (past ++ [⟨u, (s.apply u).2⟩]) u.time) (hu : keep u = true) :
    Thinned (fun id => keep (.see 0 id)) u.time (s.apply u).1 (s'.apply u).1
      ∧ (s'.apply u).2 = (s.apply u).2 := by
  cases u with
  | see now id => exact h.see_kept ((hkeep.see 0 now id).trans hu)
  | trim now age => exact ⟨h.trim_kept (hpast.length_filter_le hfits), rfl⟩

theorem apply_left (h : Thinned (fun id => keep (.see 0 id)) u.time s s')
    (hkeep : Selects ttl keep) (hpast : Recalls ttl past u.time s)
    (hfits : Fits ttl s.capacity (past ++ [⟨u, (s.apply u).2⟩]) u.time) (hu : keep u = false) :
    Thinned (fun id => keep (.see 0 id)) u.time (s.apply u).1 s' := by
  cases u with
  | see now id => exact h.see_left ((hkeep.see 0 now id).trans hu)
  | trim now age =>
      exact h.trim_left (hpast.retention ▸ hkeep.trim now age hu) (hpast.length_filter_le hfits)

end Thinned

/-- The uses that are left out change nothing about the others. -/
theorem chronicle_filter {keep : Use → Bool} (hkeep : Selects ttl keep) (hordered : Ordered us)
    (hroomy : Roomy ttl capacity us) :
    ((empty ttl capacity).chronicle us).filter (fun r => keep r.use)
        = (empty ttl capacity).chronicle (us.filter keep)
      ∧ ∀ now, (∀ u ∈ us, u.time ≤ now) →
        Thinned (fun id => keep (.see 0 id)) now ((empty ttl capacity).applyAll us)
          ((empty ttl capacity).applyAll (us.filter keep)) := by
  induction us using List.reverseRecOn with
  | nil => exact ⟨rfl, fun _ _ => .refl_of_nil rfl⟩
  | append_singleton us u ih =>
      obtain ⟨hrest, hthin⟩ := ih hordered.of_append hroomy.of_append
      have hthin := hthin u.time hordered.time_le
      have hpast := recalls_applyAll hordered.of_append hroomy.of_append hordered.time_le
      have hfits := hroomy.fits
      rw [chronicle_concat, applyAll_concat, List.filter_append, List.filter_append, hrest]
      cases hu : keep u with
      | true =>
          obtain ⟨hnext, hanswer⟩ := hthin.apply_kept hkeep hpast hfits hu
          have huse : [u].filter keep = [u] := List.filter_cons_of_pos hu
          rw [huse, chronicle_concat, applyAll_concat, hanswer]
          refine ⟨congrArg _ (List.filter_cons_of_pos hu), fun now hnow => hnext.mono ?_⟩
          exact hnow u (List.mem_append_right us (List.mem_singleton_self u))
      | false =>
          have hleft : ¬ keep u = true := ne_true_of_eq_false hu
          have huse : [u].filter keep = [] := List.filter_cons_of_neg hleft
          have hrecord : ∀ b, [Record.mk u b].filter (fun r => keep r.use) = [] :=
            fun _ => List.filter_cons_of_neg hleft
          rw [huse, hrecord, List.append_nil, List.append_nil]
          refine ⟨rfl, fun now hnow => (hthin.apply_left hkeep hpast hfits hu).mono ?_⟩
          exact hnow u (List.mem_append_right us (List.mem_singleton_self u))

/-! ## The answers -/

/-- A use that has to do with an identity: a sighting of it, or any trimming. -/
def Use.concerns (id : MessageId) : Use → Bool
  | .see _ i => i = id
  | .trim .. => true

theorem selects_concerns : Selects ttl (Use.concerns id) where
  see := fun _ _ _ => rfl
  trim := fun _ _ h => by cases h

/-- A choice of trimmings that trim what is forgotten anyway. -/
def Idle (ttl : Time) (idle : Use → Bool) : Prop :=
  ∀ u, idle u = true → ∃ now age, u = .trim now age ∧ ttl ≤ age

theorem Idle.selects {idle : Use → Bool} (h : Idle ttl idle) : Selects ttl fun u => !idle u where
  see := by
    have hseen : ∀ now id, idle (.see now id) = false := by
      intro now id
      refine eq_false_of_ne_true fun hidle => ?_
      obtain ⟨_, _, hu, -⟩ := h _ hidle
      cases hu
    intro now later id
    rw [hseen, hseen]
  trim := by
    intro now age hleft
    obtain ⟨_, _, hu, hage⟩ := h (.trim now age) (Bool.not_eq_eq_eq_not.mp hleft)
    cases hu
    exact hage

/-- Once nothing is kept, the store is empty again. -/
theorem trim_zero (hordered : Ordered (us ++ [.trim now 0]))
    (hroomy : Roomy ttl capacity us) :
    ((empty ttl capacity).applyAll us).trim now 0 = empty ttl capacity := by
  let s := (empty ttl capacity).applyAll us
  have hpast := recalls_applyAll hordered.of_append hroomy hordered.time_le
  have hnothing : (s.trim now 0).entries = [] := by
    refine List.eq_nil_iff_forall_not_mem.mpr fun e he => ?_
    obtain ⟨hmem, hyoung⟩ := mem_trim he
    exact absurd (hpast.sighted e hmem).2 (Nat.not_le_of_lt hyoung)
  calc s.trim now 0
      = ⟨s.retention, s.capacity, (s.trim now 0).entries⟩ := rfl
    _ = empty ttl capacity := by
        rw [hnothing, retention_applyAll, capacity_applyAll]
        rfl

/-- While there is room, what a store answers is told by its history: an identity is repeated
exactly if it is retained. To see it again does not retain it longer; what has to do with other
identities, and what trims only what is forgotten anyway, as the background of a node does, makes
no difference to any other answer; and nothing is left of a store that keeps nothing. -/
theorem answers_of_history (hordered : Ordered us) (hroomy : Roomy ttl capacity us) :
    let s := empty ttl capacity
    (∀ before now id after, us = before ++ .see now id :: after →
      (((s.applyAll before).see now id).2 = true ↔ Retained ttl (s.chronicle before) now id)
      ∧ (((s.applyAll before).see now id).2 = true → ∃ rest,
          s.chronicle us = s.chronicle before ++ ⟨.see now id, true⟩ :: rest
          ∧ s.chronicle (before ++ after) = s.chronicle before ++ rest))
    ∧ (∀ id, (s.chronicle us).filter (fun r => r.use.concerns id)
        = s.chronicle (us.filter (Use.concerns id)))
    ∧ (∀ idle : Use → Bool, Idle ttl idle → (s.chronicle us).filter (fun r => !idle r.use)
        = s.chronicle (us.filter fun u => !idle u))
    ∧ (∀ before now after, us = before ++ .trim now 0 :: after →
        s.chronicle us = s.chronicle before ++ ⟨.trim now 0, false⟩ :: s.chronicle after)
    ∧ ∀ {ω : Type} [Surroundings ω] (n : Node ω),
        n.trimSightings.sightings = (n.sightings.apply (.trim n.now n.sightings.retention)).1 := by
  refine ⟨?_, fun id => (chronicle_filter selects_concerns hordered hroomy).1,
    fun idle hidle => (chronicle_filter hidle.selects hordered hroomy).1, ?_, fun n => rfl⟩
  · rintro before now id after rfl
    have hbefore : Ordered (before ++ [.see now id]) := by
      rw [List.append_cons] at hordered
      exact hordered.of_append
    have hpast := recalls_applyAll hbefore.of_append hroomy.of_append hbefore.time_le
    have hanswer : (((empty ttl capacity).applyAll before).see now id).2
        = ((empty ttl capacity).applyAll before).remembers now id := see_repeated
    refine ⟨hanswer ▸ hpast.remembers_iff, fun hrepeated => ?_⟩
    have hsame : ((empty ttl capacity).applyAll before).apply (.see now id)
        = ((empty ttl capacity).applyAll before, true) := if_pos (hanswer ▸ hrepeated)
    refine ⟨((empty ttl capacity).applyAll before).chronicle after, ?_, chronicle_append⟩
    rw [chronicle_append, chronicle, hsame]
  · rintro before now after rfl
    have hbefore : Ordered (before ++ [.trim now 0]) := by
      rw [List.append_cons] at hordered
      exact hordered.of_append
    rw [chronicle_append, chronicle, apply, trim_zero hbefore hroomy.of_append]

/-- Two signals, of which the first one comes again and again. -/
def visits : List Use :=
  [.see 0 ⟨1⟩, .see 4 ⟨1⟩, .trim 5 10, .see 6 ⟨2⟩, .trim 8 3, .see 9 ⟨1⟩, .see 18 ⟨1⟩, .see 19 ⟨1⟩,
    .trim 20 0, .see 20 ⟨1⟩]

theorem visits_answered :
    Ordered visits ∧ Roomy 10 2 visits
    ∧ Retained 10 ((empty 10 2).chronicle (visits.take 6)) 18 ⟨1⟩
    ∧ ¬ Retained 10 ((empty 10 2).chronicle (visits.take 7)) 19 ⟨1⟩
    ∧ ((empty 10 2).chronicle visits).map Record.repeated
      = [false, true, false, false, false, false, true, false, false, false] := by
  have hordered : Ordered visits := by decide
  have hroomy : Roomy 10 2 visits := .of_seen (by decide)
  obtain ⟨hanswers, -⟩ := answers_of_history hordered hroomy
  have hsoon := (hanswers (visits.take 6) 18 ⟨1⟩ (visits.drop 7) rfl).1
  have hlate := (hanswers (visits.take 7) 19 ⟨1⟩ (visits.drop 8) rfl).1
  exact ⟨hordered, hroomy, hsoon.mp (by decide), fun h => absurd (hlate.mpr h) (by decide),
    by decide⟩

end Conclave.Node.Sightings

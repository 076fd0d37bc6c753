import Conclave.Proofs.Node.History
import Mathlib.Data.List.Perm.Subperm

/-!
# What is remembered of the past

Along a history of a node, `moments` pairs each event with the node that it happens to. The sightings
always agree with the past (`Tracks`): what is remembered was accepted, and what was accepted is
remembered unless its time is over. So a signal that is accepted for the first time becomes a task, and
none of its repeats does (`Counts`), as long as the history is `Calm`: time does not go back, repeats come
within the retention time, and there is room for all that is to be remembered.
-/

namespace Conclave.Node

open Wire

variable {ω : Type} [Surroundings ω]

/-! ## Moments -/

/-- An event and the node that it happens to. -/
structure Moment (ω : Type) where
  node : Node ω
  event : Event ω

def moments : Node ω → List (Event ω) → List (Moment ω)
  | _, [] => []
  | n, e :: es => ⟨n, e⟩ :: moments (n.happen e) es

namespace Moment

def now (m : Moment ω) : Time := m.node.now

def accepted? (m : Moment ω) : Option MessageId := m.node.accepted? m.event

/-- How many tasks for a signal are spawned at a moment. -/
def spawned (m : Moment ω) (id : MessageId) : Nat :=
  (m.node.happen m.event).tasksOf id - m.node.tasksOf id

end Moment

/-- How many tasks for a signal are spawned in a past. -/
def spawnedIn (id : MessageId) : List (Moment ω) → Nat
  | [] => 0
  | m :: past => m.spawned id + spawnedIn id past

/-- A signal was accepted in a past. -/
def Accepts (past : List (Moment ω)) (id : MessageId) : Prop :=
  ∃ m ∈ past, m.accepted? = some id

theorem accepts_concat {past : List (Moment ω)} {m : Moment ω} {id : MessageId} :
    Accepts (past ++ [m]) id ↔ Accepts past id ∨ m.accepted? = some id := by
  simp only [Accepts, List.mem_append, List.mem_singleton]
  constructor
  · rintro ⟨m', hmem | rfl, hid⟩
    · exact .inl ⟨m', hmem, hid⟩
    · exact .inr hid
  · rintro (⟨m', hmem, hid⟩ | hid)
    · exact ⟨m', .inl hmem, hid⟩
    · exact ⟨m, .inr rfl, hid⟩

theorem spawnedIn_concat (past : List (Moment ω)) (m : Moment ω) (id : MessageId) :
    spawnedIn id (past ++ [m]) = spawnedIn id past + m.spawned id := by
  induction past with
  | nil => exact Nat.add_comm ..
  | cons m' past ih => rw [List.cons_append, spawnedIn, spawnedIn, ih, Nat.add_assoc]

/-! ## Calm histories -/

/-- Time does not go back, a signal is not accepted again once its retention time is over, and at no
moment there are more signals within the retention time than there is room for. -/
structure Calm (ttl : Time) (capacity : Nat) (history : List (Moment ω)) : Prop where
  clock : history.Pairwise fun m m' => m.now ≤ m'.now
  soon : history.Pairwise fun m m' => ∀ id, m.accepted? = some id → m'.accepted? = some id →
    m'.now < m.now + ttl
  room : ∀ past m future, history = past ++ m :: future → ∀ ids : List MessageId, ids.Nodup →
    (∀ id ∈ ids, ∃ m' ∈ past ++ [m], m'.accepted? = some id ∧ m.now < m'.now + ttl) →
    ids.length ≤ capacity

namespace Calm

variable {ttl : Time} {capacity : Nat} {past future : List (Moment ω)} {m : Moment ω}

theorem before (h : Calm ttl capacity (past ++ future)) : Calm ttl capacity past where
  clock := (List.pairwise_append.mp h.clock).1
  soon := (List.pairwise_append.mp h.soon).1
  room := by
    intro pre m post heq
    refine h.room pre m (post ++ future) ?_
    rw [heq, List.append_assoc, List.cons_append]

theorem within (h : Calm ttl capacity (past ++ [m])) {m' : Moment ω} (hm : m' ∈ past)
    {id : MessageId} (hid' : m'.accepted? = some id) (hid : m.accepted? = some id) :
    m.now < m'.now + ttl :=
  (List.pairwise_append.mp h.soon).2.2 m' hm m (List.mem_singleton_self m) id hid' hid

theorem of_short (ids : List MessageId) (hclock : past.Pairwise fun m m' => m.now ≤ m'.now)
    (hshort : ∀ m ∈ past, ∀ m' ∈ past, m'.now < m.now + ttl)
    (hids : ∀ id, Accepts past id → id ∈ ids) (hroom : ids.length ≤ capacity) :
    Calm ttl capacity past where
  clock := hclock
  soon := by
    refine List.pairwise_of_forall_mem_list ?_
    intro m hm m' hm' id _ _
    exact hshort m hm m' hm'
  room := by
    intro pre m post heq accepted hnodup haccepted
    have hsub : accepted ⊆ ids := by
      intro id hid
      obtain ⟨m', hm', hid', -⟩ := haccepted id hid
      refine hids id ⟨m', ?_, hid'⟩
      rw [heq, List.append_cons]
      exact List.mem_append_left post hm'
    exact Nat.le_trans (List.subperm_of_subset hnodup hsub).length_le hroom

end Calm

/-! ## What the sightings know of the past -/

/-- The sightings agree with a past, as it is at some time after it. -/
structure Tracks (ttl : Time) (capacity : Nat) (past : List (Moment ω)) (now : Time)
    (s : Sightings) : Prop where
  retention : s.retention = ttl
  capacity : s.capacity = capacity
  distinct : (s.entries.map Prod.fst).Nodup
  sighted : ∀ id t, (id, t) ∈ s.entries → ∃ m ∈ past, m.accepted? = some id ∧ m.now = t
  kept : ∀ id, Accepts past id → ∃ m ∈ past, m.accepted? = some id
    ∧ ((id, m.now) ∈ s.entries ∨ m.now + ttl ≤ now)

namespace Tracks

variable {ttl now now' : Time} {capacity : Nat} {past : List (Moment ω)} {s : Sightings}
  {m : Moment ω} {id : MessageId}

theorem nil (hs : s.entries = []) :
    Tracks s.retention s.capacity ([] : List (Moment ω)) now s where
  retention := rfl
  capacity := rfl
  distinct := by
    rw [hs]
    exact List.nodup_nil
  sighted := by
    intro id t hmem
    rw [hs] at hmem
    cases hmem
  kept := by
    rintro id ⟨m, hm, -⟩
    cases hm

theorem later (h : Tracks ttl capacity past now s) (hnow : now ≤ now') :
    Tracks ttl capacity past now' s where
  retention := h.retention
  capacity := h.capacity
  distinct := h.distinct
  sighted := h.sighted
  kept := by
    intro id hid
    obtain ⟨m, hm, hid', hkept⟩ := h.kept id hid
    exact ⟨m, hm, hid', hkept.imp_right fun hlate => Nat.le_trans hlate hnow⟩

/-- What is too old may be forgotten. -/
theorem refresh (h : Tracks ttl capacity past now s) :
    Tracks ttl capacity past now (s.refresh now) where
  retention := h.retention
  capacity := h.capacity
  distinct := h.distinct.sublist (List.filter_sublist.map Prod.fst)
  sighted := fun id t hmem => h.sighted id t (Sightings.mem_refresh.mp hmem).1
  kept := by
    intro id hid
    obtain ⟨m, hm, hid', hkept⟩ := h.kept id hid
    refine ⟨m, hm, hid', ?_⟩
    by_cases hlate : m.now + ttl ≤ now
    · exact .inr hlate
    · refine hkept.imp_left fun hmem => Sightings.mem_refresh.mpr ⟨hmem, ?_⟩
      rw [h.retention]
      exact Nat.lt_of_not_le hlate

/-- A moment at which nothing is accepted that would have to be remembered from then on. -/
theorem concat (h : Tracks ttl capacity past now s)
    (hm : ∀ id, m.accepted? = some id → Accepts past id ∨ m.now + ttl ≤ now) :
    Tracks ttl capacity (past ++ [m]) now s where
  retention := h.retention
  capacity := h.capacity
  distinct := h.distinct
  sighted := by
    intro id t hmem
    obtain ⟨m', hm', hid⟩ := h.sighted id t hmem
    exact ⟨m', List.mem_append_left _ hm', hid⟩
  kept := by
    intro id hid
    have hcase : Accepts past id ∨ m.accepted? = some id ∧ m.now + ttl ≤ now := by
      rcases accepts_concat.mp hid with hold | hlast
      · exact .inl hold
      · exact (hm id hlast).imp_right fun hlate => ⟨hlast, hlate⟩
    rcases hcase with hold | ⟨hlast, hlate⟩
    · obtain ⟨m', hm', hid'⟩ := h.kept id hold
      exact ⟨m', List.mem_append_left _ hm', hid'⟩
    · exact ⟨m, List.mem_concat_self, hlast, .inr hlate⟩

/-- A moment at which a signal is accepted and sighted for the first time. -/
theorem insert (h : Tracks ttl capacity past now s) (hm : m.accepted? = some id)
    (hnew : ¬ Accepts past id) : Tracks ttl capacity (past ++ [m]) now
      { s with entries := s.entries ++ [(id, m.now)] } where
  retention := h.retention
  capacity := h.capacity
  distinct := by
    rw [List.map_append, List.nodup_append]
    refine ⟨h.distinct, List.pairwise_singleton .., ?_⟩
    rintro i hi j hj rfl
    obtain ⟨⟨i', t⟩, hmem, rfl⟩ := List.mem_map.mp hi
    obtain rfl : i' = id := List.mem_singleton.mp hj
    obtain ⟨m', hm', hid', -⟩ := h.sighted _ t hmem
    exact hnew ⟨m', hm', hid'⟩
  sighted := by
    intro i t hmem
    rcases List.mem_append.mp hmem with hold | hlast
    · obtain ⟨m', hm', hid'⟩ := h.sighted i t hold
      exact ⟨m', List.mem_append_left _ hm', hid'⟩
    · obtain ⟨rfl, rfl⟩ := Prod.mk.inj (List.mem_singleton.mp hlast)
      exact ⟨m, List.mem_concat_self, hm, rfl⟩
  kept := by
    intro i hi
    rcases accepts_concat.mp hi with hold | hlast
    · obtain ⟨m', hm', hid', hkept⟩ := h.kept i hold
      exact ⟨m', List.mem_append_left _ hm', hid', hkept.imp_left (List.mem_append_left _)⟩
    · obtain rfl := Option.some.inj (hm.symm.trans hlast)
      exact ⟨m, List.mem_concat_self, hm, .inl List.mem_concat_self⟩

/-- As long as all is calm, a signal that is accepted is remembered exactly if it was accepted
before. -/
theorem remembers_iff (h : Tracks ttl capacity past now s)
    (hcalm : Calm ttl capacity (past ++ [m])) (hnow : now ≤ m.now) (hm : m.accepted? = some id) :
    s.remembers m.now id = true ↔ Accepts past id := by
  rw [Sightings.remembers_iff, h.retention]
  constructor
  · rintro ⟨t, hmem, -⟩
    obtain ⟨m', hm', hid', -⟩ := h.sighted id t hmem
    exact ⟨m', hm', hid'⟩
  · intro hid
    obtain ⟨m', hm', hid', hkept⟩ := h.kept id hid
    have hsoon := hcalm.within hm' hid' hm
    rcases hkept with hmem | hlate
    · exact ⟨m'.now, hmem, hsoon⟩
    · exact absurd (Nat.le_trans hlate hnow) (Nat.not_le_of_lt hsoon)

theorem not_accepts (h : Tracks ttl capacity past now s)
    (hcalm : Calm ttl capacity (past ++ [m])) (hnow : now ≤ m.now) (hm : m.accepted? = some id)
    (hr : s.remembers m.now id = false) : ¬ Accepts past id := by
  rw [← h.remembers_iff hcalm hnow hm, hr]
  exact Bool.false_ne_true

theorem hasRoom (h : Tracks ttl capacity past now s) (hcalm : Calm ttl capacity (past ++ [m])) :
    (s.refresh m.now).entries.length ≤ s.capacity := by
  have hnodup : ((s.refresh m.now).entries.map Prod.fst).Nodup :=
    h.distinct.sublist (List.filter_sublist.map Prod.fst)
  have hroom := hcalm.room past m [] rfl _ hnodup ?_
  · rw [List.length_map] at hroom
    rw [h.capacity]
    exact hroom
  · rintro _ hmem
    obtain ⟨⟨id, t⟩, hentry, rfl⟩ := List.mem_map.mp hmem
    obtain ⟨hold, hyoung⟩ := Sightings.mem_refresh.mp hentry
    obtain ⟨m', hm', hid, rfl⟩ := h.sighted id t hold
    rw [h.retention] at hyoung
    exact ⟨m', List.mem_append_left _ hm', hid, hyoung⟩

/-- A signal that was never accepted before is seen. -/
theorem see (h : Tracks ttl capacity past m.now s) (hcalm : Calm ttl capacity (past ++ [m]))
    (hm : m.accepted? = some id) (hr : s.remembers m.now id = false) :
    Tracks ttl capacity (past ++ [m]) m.now (s.see m.now id).1 := by
  rcases Nat.eq_zero_or_pos s.capacity with hfull | hroom
  · rw [Sightings.see_of_no_room hr hfull]
    refine h.concat fun i hi => .inr (Nat.le_of_not_lt fun hyoung => ?_)
    -- a retention time during which there is no room would not be calm
    have hone := hcalm.room past m [] rfl [i] (List.pairwise_singleton ..) ?_
    · rw [← h.capacity, hfull] at hone
      exact Nat.not_succ_le_zero 0 hone
    · intro j hj
      rw [List.mem_singleton.mp hj]
      exact ⟨m, List.mem_concat_self, hi, hyoung⟩
  · rw [Sightings.see_of_not_remembers hr hroom]
    exact h.refresh.insert hm (h.not_accepts hcalm (Nat.le_refl _) hm hr)

/-- What a moment does to the sightings. -/
theorem step {n : Node ω} {e : Event ω} (h : Tracks ttl capacity past now n.sightings)
    (hcalm : Calm ttl capacity (past ++ [⟨n, e⟩])) (hnow : now ≤ n.now) :
    Tracks ttl capacity (past ++ [⟨n, e⟩]) n.now (n.happen e).sightings := by
  have hlater := h.later hnow
  have himpact := happen_impact n e
  generalize ha : n.accepted? e = a at himpact
  have hm : (Moment.mk n e).accepted? = a := ha
  cases himpact with
  | nothing hsee ht =>
      rw [hsee]
      refine hlater.concat fun id hid => ?_
      cases hm.symm.trans hid
  | trimmed hsee ht =>
      have hroom : (n.sightings.refresh n.now).entries.length ≤ n.sightings.capacity :=
        h.hasRoom hcalm
      rw [hsee, Sightings.trim_retention hroom]
      refine hlater.refresh.concat fun id hid => ?_
      cases hm.symm.trans hid
  | @repeated id hr hsee ht =>
      rw [hsee]
      refine hlater.concat fun i hi => ?_
      obtain rfl := Option.some.inj (hm.symm.trans hi)
      exact .inl ((h.remembers_iff hcalm hnow hm).mp hr)
  | fresh hr hsee ht =>
      rw [hsee]
      exact hlater.see hcalm hm hr

end Tracks

/-! ## What is spawned -/

/-- Each signal that was accepted in a past became one task, and no other one did. -/
def Counts (past : List (Moment ω)) : Prop :=
  ∀ id, Accepts past id ∧ spawnedIn id past = 1 ∨ ¬ Accepts past id ∧ spawnedIn id past = 0

namespace Counts

variable {past : List (Moment ω)} {m : Moment ω} {id : MessageId}

theorem nil : Counts ([] : List (Moment ω)) := by
  intro id
  refine .inr ⟨?_, rfl⟩
  rintro ⟨m, hm, -⟩
  cases hm

theorem one_of_accepts (h : Counts past) (hid : Accepts past id) : spawnedIn id past = 1 := by
  rcases h id with ⟨-, hone⟩ | ⟨hnot, -⟩
  · exact hone
  · exact absurd hid hnot

/-- A moment at which nothing new is accepted and nothing is spawned. -/
theorem concat (h : Counts past) (hm : ∀ id, m.accepted? = some id → Accepts past id)
    (hspawned : ∀ id, m.spawned id = 0) : Counts (past ++ [m]) := by
  intro id
  rw [spawnedIn_concat, hspawned, Nat.add_zero]
  have hsame : Accepts (past ++ [m]) id ↔ Accepts past id := by
    rw [accepts_concat]
    exact ⟨fun hid => hid.elim (fun hold => hold) (hm id), .inl⟩
  rw [hsame]
  exact h id

/-- A moment at which a signal is accepted for the first time and spawned. -/
theorem insert (h : Counts past) (hm : m.accepted? = some id) (hnew : ¬ Accepts past id)
    (hspawned : ∀ i, m.spawned i = if i = id then 1 else 0) : Counts (past ++ [m]) := by
  intro i
  rw [spawnedIn_concat, accepts_concat, hspawned]
  by_cases hi : i = id
  · subst hi
    rcases h i with ⟨hold, -⟩ | ⟨-, hzero⟩
    · exact absurd hold hnew
    · rw [hzero, if_pos rfl]
      exact .inl ⟨.inr hm, rfl⟩
  · have hother : m.accepted? ≠ some i := fun he => hi (Option.some.inj (he.symm.trans hm))
    rw [if_neg hi, Nat.add_zero, or_iff_left hother]
    exact h i

/-- What a moment spawns. -/
theorem step {n : Node ω} {e : Event ω} {ttl now : Time} {capacity : Nat} (h : Counts past)
    (htracks : Tracks ttl capacity past now n.sightings)
    (hcalm : Calm ttl capacity (past ++ [⟨n, e⟩])) (hnow : now ≤ n.now) :
    Counts (past ++ [⟨n, e⟩]) := by
  have himpact := happen_impact n e
  generalize ha : n.accepted? e = a at himpact
  have hm : (Moment.mk n e).accepted? = a := ha
  cases himpact with
  | nothing hsee ht =>
      refine h.concat (fun id hid => ?_) fun i => Nat.sub_eq_zero_of_le (ht i)
      cases hm.symm.trans hid
  | trimmed hsee ht =>
      refine h.concat (fun id hid => ?_) fun i => Nat.sub_eq_zero_of_le (ht i)
      cases hm.symm.trans hid
  | @repeated id hr hsee ht =>
      refine h.concat (fun i hi => ?_) fun i => Nat.sub_eq_zero_of_le (ht i)
      obtain rfl := Option.some.inj (hm.symm.trans hi)
      exact (htracks.remembers_iff hcalm hnow hm).mp hr
  | fresh hr hsee ht =>
      refine h.insert hm (htracks.not_accepts hcalm hnow hm hr) fun i => ?_
      rw [Moment.spawned, ht, Nat.add_sub_cancel_left]

end Counts

/-- Along a calm history each signal that is accepted becomes one task. -/
theorem counts_moments {ttl now : Time} {capacity : Nat} {es : List (Event ω)} {n : Node ω}
    {past : List (Moment ω)} (htracks : Tracks ttl capacity past now n.sightings)
    (hcounts : Counts past) (hcalm : Calm ttl capacity (past ++ moments n es))
    (hnow : ∀ m ∈ moments n es, now ≤ m.now) : Counts (past ++ moments n es) := by
  -- the past grows by one moment at each event, and the sightings keep track of it
  induction es generalizing n past now with
  | nil =>
      rw [moments, List.append_nil]
      exact hcounts
  | cons e es ih =>
      have hfirst : now ≤ n.now := hnow ⟨n, e⟩ (List.mem_cons_self ..)
      rw [moments, List.append_cons] at hcalm ⊢
      refine ih (htracks.step hcalm.before hfirst)
        (hcounts.step htracks hcalm.before hfirst) hcalm ?_
      intro m hm
      exact (List.pairwise_append.mp hcalm.clock).2.2 ⟨n, e⟩ List.mem_concat_self m hm

end Conclave.Node

import Conclave.Node.Sightings
import Mathlib.Data.List.Basic

/-!
# What is remembered

An identity is remembered at a moment if it has a sighting that is not too old. To take in an
identity that is not remembered adds a sighting, and to trim by the retention time takes away the
old ones only, as long as there is room for the others.
-/

namespace Conclave.Node.Sightings

open Wire

variable {s : Sightings} {now : Time} {id : MessageId}

theorem remembers_iff :
    s.remembers now id = true ↔ ∃ t, (id, t) ∈ s.entries ∧ now < t + s.retention := by
  simp only [remembers, List.any_eq_true, decide_eq_true_eq]
  constructor
  · rintro ⟨⟨i, t⟩, hmem, rfl, hlt⟩
    exact ⟨t, hmem, hlt⟩
  · rintro ⟨t, hmem, hlt⟩
    exact ⟨(id, t), hmem, rfl, hlt⟩

theorem mem_refresh {e : MessageId × Time} :
    e ∈ (s.refresh now).entries ↔ e ∈ s.entries ∧ now < e.2 + s.retention := by
  simp [refresh]

theorem see_of_not_remembers (h : s.remembers now id = false) (hroom : 0 < s.capacity) :
    s.see now id
      = ({ s with entries := (s.refresh now).entries ++ [(id, now)] }, false) := by
  rw [see, if_neg (by rw [h]; exact Bool.false_ne_true), if_neg (Nat.ne_of_gt hroom)]

theorem see_of_no_room (h : s.remembers now id = false) (hroom : s.capacity = 0) :
    s.see now id = (s, false) := by
  rw [see, if_neg (by rw [h]; exact Bool.false_ne_true), if_pos hroom]

/-- A sighting that a store holds was held before, or is new. -/
theorem mem_see {e : MessageId × Time} (h : e ∈ (s.see now id).1.entries) :
    e ∈ s.entries ∨ e = (id, now) := by
  rw [see] at h
  split at h
  · exact .inl h
  · split at h
    · exact .inl h
    · rcases List.mem_append.mp h with hold | hnew
      · exact .inl (mem_refresh.mp hold).1
      · exact .inr (List.mem_singleton.mp hnew)

theorem mem_trim {age : Time} {e : MessageId × Time} (h : e ∈ (s.trim now age).entries) :
    e ∈ s.entries ∧ now < e.2 + age := by
  rw [trim, tidy] at h
  have hkept := (mem_refresh.mp (List.mem_of_mem_take h)).1
  rw [List.mem_filter, decide_eq_true_eq] at hkept
  exact hkept

theorem refresh_refresh : (s.refresh now).refresh now = s.refresh now := by
  have hkept : (s.refresh now).entries.filter (fun e => now < e.2 + s.retention)
      = (s.refresh now).entries :=
    List.filter_eq_self.mpr fun e he => decide_eq_true (mem_refresh.mp he).2
  exact congrArg (fun es => { s with entries := es }) hkept

/-- With room for what is left, to trim is to leave out what is old enough. -/
theorem entries_trim {age : Time}
    (hroom : ((s.refresh now).entries.filter fun e => now < e.2 + age).length ≤ s.capacity) :
    (s.trim now age).entries = (s.refresh now).entries.filter fun e => now < e.2 + age := by
  have htrim : (s.trim now age).entries
      = ((s.refresh now).entries.filter fun e => now < e.2 + age).take s.capacity :=
    congrArg (List.take s.capacity) (List.filter_comm ..)
  rw [htrim, List.take_of_length_le hroom]

/-- What is not forgotten is too young to be trimmed by the retention time or a longer one. -/
theorem filter_refresh {age : Time} (hage : s.retention ≤ age) :
    (s.refresh now).entries.filter (fun e => now < e.2 + age) = (s.refresh now).entries := by
  refine List.filter_eq_self.mpr fun e he => decide_eq_true ?_
  exact Nat.lt_of_lt_of_le (mem_refresh.mp he).2 (Nat.add_le_add_left hage e.2)

/-- Trimming by the retention time forgets what is forgotten anyway, if there is room. -/
theorem trim_retention (hroom : (s.refresh now).entries.length ≤ s.capacity) :
    s.trim now s.retention = s.refresh now := by
  have hkept := @filter_refresh s now s.retention (Nat.le_refl _)
  rw [← hkept] at hroom
  exact congrArg (fun es => { s with entries := es }) ((entries_trim hroom).trans hkept)

end Conclave.Node.Sightings

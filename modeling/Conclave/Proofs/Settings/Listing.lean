import Conclave.Proofs.Settings.Fulfilled

/-!
# Lists in two spellings

The members and the admitted networks are set as a list of texts, or as one text with commas between
them. Texts without commas say the same in both spellings (`Settings.Lists`): what counts are the
texts that are not blank, without the blanks around them (`listed_of_lists`). Of the members each
counts once, in the place where it came first; networks are read as they come, repeats and all.

The empty list has the empty text for its other spelling. Cut at its commas that has one part, not
none; but the part is blank, so that both say nothing.
-/

namespace Conclave.Settings

open Ip (AccessList Network)

/-- Whether a setting lists some texts, in either spelling. -/
def Lists (s : Settings) (path : Path) (ts : List String) : Prop :=
  s.get? path = some (.list (ts.map .text)) ∨ s.get? path = some (.text (",".intercalate ts))

/-! ## What is listed -/

theorem listed_of_list {s : Settings} {path : Path} {ts : List String}
    (h : s.get? path = some (.list (ts.map .text))) : s.listed path = AccessList.written ts := by
  have htexts : (ts.map Value.text).filterMap Value.toText? = ts := by
    simp [List.filterMap_map, Function.comp_def, Value.toText?]
  rw [listed, h, Option.map_some, Option.getD_some, Value.entries, Value.parts,
    Value.filterMap_said?, htexts]

theorem listed_of_text {s : Settings} {path : Path} {t : String}
    (h : s.get? path = some (.text t)) :
    s.listed path = AccessList.written (splitCommas t) := by
  rw [listed, h, Option.map_some, Option.getD_some, Value.entries, Value.parts_of_toText? rfl,
    Value.filterMap_said?]
  simp [List.filterMap_map, Function.comp_def, Value.toText?]

/-- Texts without commas come back when they are joined and cut, and no texts as a blank one. -/
theorem written_splitCommas {ts : List String} (h : ∀ t ∈ ts, ',' ∉ t.toList) :
    AccessList.written (splitCommas (",".intercalate ts)) = AccessList.written ts := by
  cases ts with
  | nil => decide
  | cons t r =>
      have hchars : ∀ cs ∈ t.toList :: r.map String.toList, ',' ∉ cs := by
        intro cs hcs
        rw [← List.map_cons, List.mem_map] at hcs
        obtain ⟨u, hu, rfl⟩ := hcs
        exact h u hu
      have hback : String.ofList ∘ String.toList = id := funext fun s => String.ofList_toList
      have hcut : splitCommas (",".intercalate (t :: r)) = t :: r := by
        rw [splitCommas, String.toList_intercalate, List.map_cons]
        simp [Text.cut_intercalate hchars, hback]
      rw [hcut]

/-- Texts without commas are listed alike in both spellings. -/
theorem listed_of_lists {s : Settings} {path : Path} {ts : List String}
    (hcommas : ∀ t ∈ ts, ',' ∉ t.toList) (h : s.Lists path ts) :
    s.listed path = AccessList.written ts := by
  rcases h with hlist | htext
  · exact listed_of_list hlist
  · rw [listed_of_text htext, written_splitCommas hcommas]

/-! ## Members -/

/-- Each item at its first place: that is what is left when later repeats are erased. -/
theorem distinct_eq_eraseDups (l : List String) : distinct l = l.eraseDups := by
  induction l using List.reverseRecOn with
  | nil => rfl
  | append_singleton l t ih =>
      rw [distinct_concat, List.eraseDups_append, ih]
      by_cases ht : t ∈ l
      · simp [ht, List.removeAll]
      · simp [ht, List.removeAll, List.eraseDups_cons]

theorem distinct_of_nodup {l : List String} (h : l.Nodup) : distinct l = l := by
  induction l using List.reverseRecOn with
  | nil => rfl
  | append_singleton l t ih =>
      obtain ⟨hl, -, hapart⟩ := List.nodup_append.mp h
      have ht : t ∉ l := fun hmem => hapart t hmem t (List.mem_singleton_self t) rfl
      rw [distinct_concat, ih hl]
      simp [ht]

section

variable {s s' : Settings} {ts : List String}

theorem members_of_listed (h : s.listed (clusterPath "members") = AccessList.written ts) :
    s.members = (AccessList.written ts).eraseDups := by
  rw [members, texts_eq_listed, h, distinct_eq_eraseDups]

theorem written_members (s : Settings) : AccessList.written s.members = s.members := by
  have htrim : s.members.map Text.trim = s.members := by
    refine (List.map_congr_left fun m hm => ?_).trans (List.map_id _)
    exact (trim_of_listed (mem_members.mp hm)).1
  rw [AccessList.written, htrim, List.filter_eq_self]
  intro m hm
  exact decide_eq_true (trim_of_listed (mem_members.mp hm)).2

/-- Members are neither blank nor repeated, so listing them again changes nothing. -/
theorem members_of_members (h : s'.listed (clusterPath "members") = AccessList.written s.members) :
    s'.members = s.members := by
  rw [members, texts_eq_listed, h, written_members]
  exact distinct_of_nodup (nodup_distinct _)

/-- Members of texts without commas have none. -/
theorem comma_not_mem_of_lists (hcommas : ∀ t ∈ ts, ',' ∉ t.toList)
    (h : s.Lists (clusterPath "members") ts) : ∀ m ∈ s.members, ',' ∉ m.toList := by
  intro m hm
  rw [mem_members, listed_of_lists hcommas h] at hm
  obtain ⟨t, ht, rfl⟩ := List.mem_map.mp (List.mem_of_mem_filter hm)
  intro hcomma
  rw [Text.toList_trim] at hcomma
  exact hcommas t ht (Text.mem_of_mem_trimChars hcomma)

/-! ## Networks -/

theorem networks_eq_ok_iff {l : AccessList} : s.networks = .ok l ↔
    List.Forall₂ Network.Means (s.listed (clusterPath "allowed-networks")) l.networks := by
  have hmeans : ∀ {l' : AccessList}, s.networks = .ok l' →
      List.Forall₂ Network.Means (s.listed (clusterPath "allowed-networks")) l'.networks := by
    intro l' hl
    rw [networks, texts_eq_listed] at hl
    rw [← written_listed]
    exact AccessList.means_of_read hl
  have hunique : Relator.RightUnique Network.Means := by
    intro e n n' hn hn'
    rw [Network.means_iff] at hn hn'
    exact Option.some.inj (hn.symm.trans hn')
  refine ⟨hmeans, fun h => ?_⟩
  cases hn : s.networks with
  | ok l' =>
      have hsame : l'.networks = l.networks := hunique.forall₂ (hmeans hn) h
      exact congrArg _ (congrArg AccessList.mk hsame)
  | error fault =>
      obtain ⟨e, he, -⟩ := networks_eq_error_iff.mp hn
      exact absurd (exists_of_forall₂ h he.mem) he.holds

end

/-! ## Both spellings -/

/-- Texts without commas are the same setting as a list and as one text. As members they are the
texts that are not blank, trimmed, each at its first place; as networks they are those that the texts
mean in turn, or they are refused for the first that means none. Listing the members again, in either
spelling, lists the same. -/
theorem spellings_agree :
    (∀ ts : List String, (∀ t ∈ ts, ',' ∉ t.toList) → ∀ s s' : Settings,
      (s.Lists (clusterPath "members") ts → s'.Lists (clusterPath "members") ts →
        s.members = s'.members ∧ s.members = (AccessList.written ts).eraseDups)
      ∧ (s.Lists (clusterPath "members") ts → s'.Lists (clusterPath "members") s.members →
        s'.members = s.members)
      ∧ (s.Lists (clusterPath "allowed-networks") ts →
        s'.Lists (clusterPath "allowed-networks") ts →
        s.networks = s'.networks
        ∧ (∀ l, s.networks = .ok l ↔ List.Forall₂ Network.Means (AccessList.written ts) l.networks)
        ∧ ∀ fault, s.networks = .error fault ↔ ∃ e,
          IsFirst (fun e => ¬∃ n, Network.Means e n) (AccessList.written ts) e
          ∧ fault = .invalidNetwork e))
    ∧ ∀ s s' : Settings, s'.get? (clusterPath "members") = some (.list (s.members.map .text)) →
      s'.members = s.members := by
  refine ⟨fun ts hcommas s s' => ⟨fun h h' => ?_, fun h h' => ?_, fun h h' => ?_⟩,
    fun s s' h => members_of_members (listed_of_list h)⟩
  · have hmembers := members_of_listed (listed_of_lists hcommas h)
    have hmembers' := members_of_listed (listed_of_lists hcommas h')
    exact ⟨hmembers.trans hmembers'.symm, hmembers⟩
  · exact members_of_members (listed_of_lists (comma_not_mem_of_lists hcommas h) h')
  · have hlisted := listed_of_lists hcommas h
    refine ⟨?_, fun l => ?_, fun fault => ?_⟩
    · rw [networks, networks, texts_eq_listed, texts_eq_listed, hlisted,
        listed_of_lists hcommas h']
    · rw [networks_eq_ok_iff, hlisted]
    · rw [networks_eq_error_iff]
      simp only [IsFirstUnknown, hlisted]

/-- Settings with two values for the members and the admitted networks. -/
def fleet (members networks : Value) : Settings :=
  ⟨.table [("raftline", .table [("cluster", .table [
    ("members", members), ("allowed-networks", networks)])])]⟩

/-- A blank and a repeated member count for nothing in either spelling, and two texts that mean no
network are refused for the first of them. -/
theorem fleet_agrees :
    let crew : Value := .text " a:1,,b:2 ,a:1"
    let ports : Value := .text "10.0.0.0/8, ,everywhere,nowhere"
    let listedCrew : Value := .list ([" a:1", "", "b:2 ", "a:1"].map .text)
    let listedPorts : Value := .list (["10.0.0.0/8", " ", "everywhere", "nowhere"].map .text)
    (fleet crew ports).members = ["a:1", "b:2"]
    ∧ (fleet listedCrew listedPorts).members = ["a:1", "b:2"]
    ∧ (fleet (.list (["a:1", "b:2"].map .text)) ports).members = ["a:1", "b:2"]
    ∧ (fleet crew ports).networks = .error (.invalidNetwork "everywhere")
    ∧ (fleet listedCrew listedPorts).networks = .error (.invalidNetwork "everywhere") := by
  intro crew ports listedCrew listedPorts
  have hmembers (v w : Value) : (fleet v w).get? (clusterPath "members") = some v := by
    simp [fleet, Settings.get?, clusterPath, Value.get?]
  have hnetworks (v w : Value) : (fleet v w).get? (clusterPath "allowed-networks") = some w := by
    simp [fleet, Settings.get?, clusterPath, Value.get?, List.lookup_cons]
  have hcrew : ",".intercalate [" a:1", "", "b:2 ", "a:1"] = " a:1,,b:2 ,a:1" := by
    decide +kernel
  have hports : ",".intercalate ["10.0.0.0/8", " ", "everywhere", "nowhere"]
      = "10.0.0.0/8, ,everywhere,nowhere" := by
    decide +kernel
  obtain ⟨hagree, hagain⟩ := spellings_agree
  obtain ⟨hsame, -, -⟩ := hagree [" a:1", "", "b:2 ", "a:1"] (by decide +kernel)
    (fleet crew ports) (fleet listedCrew listedPorts)
  obtain ⟨hmembers₁, hmembers₂⟩ := hsame (.inr (by rw [hmembers, hcrew])) (.inl (hmembers _ _))
  obtain ⟨-, -, hrefused⟩ := hagree ["10.0.0.0/8", " ", "everywhere", "nowhere"]
    (by decide +kernel) (fleet crew ports) (fleet listedCrew listedPorts)
  obtain ⟨hnetworks₁, -, hfault⟩ :=
    hrefused (.inr (by rw [hnetworks, hports])) (.inl (hnetworks _ _))
  have hlist : (fleet crew ports).members = ["a:1", "b:2"] := by
    rw [hmembers₂]
    decide +kernel
  have hsecond : (fleet (.list (["a:1", "b:2"].map .text)) ports).members = ["a:1", "b:2"] := by
    rw [← hlist]
    exact hagain _ _ (hmembers _ _)
  have hnetworks₂ : (fleet crew ports).networks = .error (.invalidNetwork "everywhere") := by
    refine (hfault _).mpr ⟨"everywhere", ?_, rfl⟩
    have hwritten : AccessList.written ["10.0.0.0/8", " ", "everywhere", "nowhere"]
        = ["10.0.0.0/8", "everywhere", "nowhere"] := by
      decide +kernel
    rw [hwritten]
    exact isFirst_everywhere
  exact ⟨hlist, hmembers₁ ▸ hlist, hsecond, hnetworks₂, hnetworks₁ ▸ hnetworks₂⟩

end Conclave.Settings
